import CrsExport.Resolver.Basic
import Std.Data.HashMap
/-! Init files: text files with one definition a line, written with its code in angle
brackets in front and an empty pair of brackets behind. Blank lines and comments are
passed over, and so are malformed ones, which are reported by number. -/

namespace CrsExport
namespace InitFile

inductive Line where
  | blank
  | comment
  | entry (code : Code) (definition : Text)
  | malformed (content : Text)
  deriving DecidableEq, Repr

def terminator : Text := text "<>"

def dropTerminator (body : Text) : Text :=
  if terminator.isSuffixOf body then body.dropLast.dropLast else body

def readEntry (line : Text) : Option (Code × Text) :=
  match line with
  | '<' :: rest =>
    match Text.splitFirst '>' rest with
    | none => none
    | some (header, body) =>
      match Code.read (Text.trim header) with
      | none => none
      | some code =>
        if code = 0 then none
        else some (code, Text.trim (dropTerminator (Text.trim body)))
  | _ => none

def readLine (line : Text) : Line :=
  match Text.trim line with
  | [] => .blank
  | '#' :: _ => .comment
  | content =>
    match readEntry content with
    | some (code, definition) => .entry code definition
    | none => .malformed content

def readLines (contents : Text) : List Line :=
  (Text.splitWhen (· == '\n') contents).map readLine

def entries (ls : List Line) : List (Code × Text) :=
  ls.filterMap fun
    | .entry code definition => some (code, definition)
    | _ => none

def malformedFrom (number : Nat) : List Line → List (Nat × Text)
  | [] => []
  | .malformed content :: ls => (number, content) :: malformedFrom (number + 1) ls
  | _ :: ls => malformedFrom (number + 1) ls

def malformedLines (contents : Text) : List (Nat × Text) :=
  malformedFrom 1 (readLines contents)

end InitFile

structure InitFile where
  definitions : Std.HashMap Code Text

namespace InitFile

def insert (table : InitFile) (code : Code) (definition : Text) : InitFile :=
  ⟨table.definitions.insert code definition⟩

def find? (table : InitFile) (code : Code) : Option Text := table.definitions[code]?

def size (table : InitFile) : Nat := table.definitions.size

def isEmpty (table : InitFile) : Bool := table.definitions.isEmpty

def parse (contents : Text) : InitFile :=
  (entries (readLines contents)).foldl (fun table e => table.insert e.1 e.2) ⟨∅⟩

def resolver (table : InitFile) : Resolver where
  name := text "init-file"
  resolve code :=
    match table.find? code with
    | some definition => .ok { code, proj4 := definition, wkt := none }
    | none => .error (.unknownCode code)

theorem findInserted (table : InitFile) (code c : Code) (definition : Text) :
    (table.insert code definition).find? c =
      if code = c then some definition else table.find? c := by
  simp [insert, find?, Std.HashMap.getElem?_insert]

end InitFile
end CrsExport
