import CrsExport.Log.Record
import CrsExport.Pattern.Replace
/-! Which records are written. Directives say up to which level the records of a target
are; of all directives whose name a target begins with, the longest counts. A pattern may
further restrict the records to those whose message it matches. -/

namespace CrsExport.Log

structure Directive where
  name : Option Text
  level : Option Level
  deriving DecidableEq, Repr

def Directive.reach (d : Directive) : Nat := (d.name.map List.length).getD 0

structure Filter where
  directives : List Directive := []
  pattern : Option Pattern.Compiled := none

inductive FilterFault where
  | part (content : Text)
  | slashes (content : Text)
  | pattern (pattern : Text) (fault : Pattern.Fault)
  deriving DecidableEq, Repr

def FilterFault.message : FilterFault → Text
  | part content => text "invalid logging spec '" ++ content ++ ['\'']
  | slashes content => text "invalid logging spec '" ++ content ++ text "' (too many '/'s)"
  | pattern p fault => text "invalid regex filter - " ++ fault.report p

def FilterFault.warning (fault : FilterFault) : Text :=
  text "warning: " ++ fault.message ++ text ", ignoring it\n"

namespace Filter

def add (f : Filter) (d : Directive) : Filter :=
  if f.directives.any (·.name == d.name) then
    { f with directives := f.directives.map fun e => if e.name = d.name then d else e }
  else { f with directives := f.directives ++ [d] }

def readLevel (t : Text) : Option (Option Level) :=
  let capitals := t.map Char.toUpper
  if capitals = text "OFF" then some none
  else (Level.all.find? fun l => text l.label == capitals).map some

def readDirective (part : Text) : Except FilterFault Directive :=
  match Text.splitWhen (· == '=') part with
  | [one] =>
    match readLevel one with
    | some level => .ok ⟨none, level⟩
    | none => .ok ⟨some one, some .trace⟩
  | [name, level] =>
    let level := Text.trim level
    if level.isEmpty then .ok ⟨some name, some .trace⟩
    else
      match readLevel level with
      | some level => .ok ⟨some name, level⟩
      | none => .error (.part level)
  | _ => .error (.part part)

def readDirectives (f : Filter) : List Text → Filter × List FilterFault
  | [] => (f, [])
  | part :: rest =>
    if (Text.trim part).isEmpty then readDirectives f rest
    else
      match readDirective (Text.trim part) with
      | .ok d => readDirectives (f.add d) rest
      | .error fault =>
        let (f, faults) := readDirectives f rest
        (f, fault :: faults)

def read (t : Text) : Filter × List FilterFault :=
  match Text.splitWhen (· == '/') t with
  | [parts] => readDirectives {} (Text.splitWhen (· == ',') parts)
  | [parts, pattern] =>
    let (f, faults) := readDirectives {} (Text.splitWhen (· == ',') parts)
    match Pattern.compile pattern with
    | .ok p => ({ f with pattern := some p }, faults)
    | .error fault => (f, faults ++ [.pattern pattern fault])
  | _ => ({}, [.slashes t])

def withLevel (f : Filter) (level : Level) : Filter :=
  (f.add ⟨none, some level⟩).add ⟨some (text Target.program), some level⟩

def directiveFor? (f : Filter) (target : Target) : Option Directive :=
  (f.directives.filter fun d => d.name.all (·.isPrefixOf (text target.path))).foldl
    (fun best d =>
      match best with
      | some b => if b.reach ≤ d.reach then some d else some b
      | none => some d) none

def allows (f : Filter) (r : Record) : Bool :=
  ((f.directiveFor? r.target).bind (·.level)).any (r.level.rank ≤ ·.rank) &&
    f.pattern.all (·.isMatch r.message)

end Filter
end CrsExport.Log
