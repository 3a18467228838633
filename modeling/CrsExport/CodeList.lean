import CrsExport.Code
/-! Code lists: single codes and inclusive ranges of codes between commas. -/

namespace CrsExport

structure CodeSpan where
  first : Code
  last : Code
  deriving DecidableEq, Repr

namespace CodeSpan

def contains (s : CodeSpan) (c : Code) : Bool := s.first ≤ c && c ≤ s.last

end CodeSpan

namespace CodeList

def readEntry (entry : Text) : Option CodeSpan :=
  match Text.splitFirst '-' entry with
  | some (a, b) =>
    match Code.read (Text.trim a), Code.read (Text.trim b) with
    | some first, some last => if first ≤ last then some ⟨first, last⟩ else none
    | _, _ => none
  | none => (Code.read entry).map fun c => ⟨c, c⟩

def entries (list : Text) : List Text :=
  ((Text.splitWhen (· == ',') list).map Text.trim).filter (fun e => !e.isEmpty)

def readEntries : List Text → Except Text (List CodeSpan)
  | [] => .ok []
  | e :: es =>
    match readEntry e with
    | none => .error e
    | some s => (readEntries es).map (s :: ·)

def parse (list : Text) : Except Text (List CodeSpan) := readEntries (entries list)

end CodeList
end CrsExport
