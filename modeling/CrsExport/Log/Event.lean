import CrsExport.Log.Record
import CrsExport.Export.Range
import CrsExport.Resolver.Error
/-! The events of a run that are worth a log record. -/

namespace CrsExport.Log

inductive Event where
  | scanning (range : CodeRange) (resolver : Text)
  | substituting (substitutions : Nat) (code : Code)
  | skipping (error : ResolveError)
  | progress (scanned total written : Nat)
  | exporting (range : CodeRange) (output : Text)
  | summary (scanned written : Nat)
  | skipTotal (total : Nat)
  | skipCount (reason : SkipReason) (count : Nat)
  | malformedLine (number : Nat) (content : Text)
  | initFileLoaded (size : Nat) (path : Text)
  | definitionsLoaded (size : Nat) (path : Text)
  | builtinDatabase
  | refinementsLoaded (path : Text)
  deriving DecidableEq, Repr

structure Times where
  total : Text
  progress : Text
  rate : Text

def Times.ofMillis (millis scanned : Nat) : Times where
  total :=
    let tenths := (millis + 50) / 100
    Text.ofNat (tenths / 10) ++ ['.'] ++ Text.ofNat (tenths % 10)
  progress :=
    let hundredths := (millis + 5) / 10
    Text.ofNat (hundredths / 100) ++ ['.', Nat.digitChar (hundredths / 10 % 10),
      Nat.digitChar (hundredths % 10)]
  rate := Text.ofNat (1000 * scanned / millis)

def percent (part whole : Nat) : Nat :=
  if whole = 0 then 100
  else
    let n := 100 * part / whole
    let twice := 2 * (100 * part % whole)
    if twice < whole ∨ (twice = whole ∧ n % 2 = 0) then n else n + 1

namespace Event

def level : Event → Level
  | substituting .. | skipping .. => .trace
  | scanning .. | malformedLine .. | initFileLoaded .. => .debug
  | _ => .info

def target : Event → Target
  | scanning .. | substituting .. | skipping .. => .writer
  | progress .. => .progress
  | exporting .. => .run
  | summary .. | skipTotal .. | skipCount .. => .statistics
  | malformedLine .. | initFileLoaded .. => .initFile
  | definitionsLoaded .. | builtinDatabase | refinementsLoaded .. => .initialization

def message (times : Times) : Event → Text
  | scanning range resolver =>
    text "Scanning " ++ Text.ofNat range.count ++ text " candidate codes " ++
      CodeRange.describe range.start range.stop ++ text " with the " ++ resolver ++
      text " resolver"
  | substituting n code =>
    text "Applying " ++ Text.ofNat n ++ text " code rewrite(s) to EPSG:" ++ code.toText
  | skipping e => text "Skipping EPSG:" ++ e.code.toText ++ text ": " ++ e.message
  | progress scanned total written =>
    text "Scanned " ++ Text.ofNat scanned ++ ['/'] ++ Text.ofNat total ++ text " codes (" ++
      Text.ofNat (percent scanned total) ++ text "%), " ++ Text.ofNat written ++
      text " rows written in " ++ times.progress ++ text " seconds (~" ++ times.rate ++
      text " codes/sec)"
  | exporting range output =>
    text "Exporting codes " ++ CodeRange.describe range.start range.stop ++ text " to " ++
      output
  | summary scanned written =>
    text "✅ Scanned " ++ Text.ofNat scanned ++
      text (if scanned = 1 then " code (" else " codes (") ++ Text.ofNat written ++
      text " written, " ++ Text.ofNat (scanned - written) ++ text " skipped) in " ++
      times.total ++ ['s']
  | skipTotal n => text "Skip Counts (" ++ Text.ofNat n ++ text " total):"
  | skipCount reason n => text "   " ++ text reason.label ++ text ": " ++ Text.ofNat n
  | malformedLine n content =>
    text "Skipping init file line " ++ Text.ofNat n ++ text ": " ++ content
  | initFileLoaded n path | definitionsLoaded n path =>
    text "Loaded " ++ Text.ofNat n ++ text " definitions from " ++ path
  | builtinDatabase => text "Using the built-in EPSG database"
  | refinementsLoaded path => text "Loaded PROJ refinements from " ++ path

def record (times : Times) (e : Event) : Record := ⟨e.level, e.target, e.message times⟩

end Event
end CrsExport.Log
