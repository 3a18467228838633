import CrsExport.Text.Blank
/-! Sets of code points as ascending spans that neither overlap nor touch, and the tables
that list them as hexadecimal numbers. -/

namespace CrsExport.Unicode

def lastCodePoint : Nat := 0x10FFFF

structure CodePointSet where
  spans : Array (Nat × Nat)
  deriving BEq, Repr, Inhabited

namespace CodePointSet

def join : List (Nat × Nat) → List (Nat × Nat)
  | [] => []
  | s :: rest => go s rest
where
  go (s0 : Nat × Nat) : List (Nat × Nat) → List (Nat × Nat)
    | [] => [s0]
    | s :: rest =>
      if s.1 ≤ s0.2 + 1 then go (s0.1, max s0.2 s.2) rest
      else s0 :: go s rest

def ofSpans (spans : List (Nat × Nat)) : CodePointSet :=
  ⟨(join (spans.mergeSort (fun a b => a.1 ≤ b.1))).toArray⟩

def empty : CodePointSet := ⟨#[]⟩

def all : CodePointSet := ⟨#[(0, lastCodePoint)]⟩

def ofChar (c : Char) : CodePointSet := ⟨#[(c.toNat, c.toNat)]⟩

def ofChars (cs : List Char) : CodePointSet :=
  ofSpans (cs.map fun c => (c.toNat, c.toNat))

def isEmpty (s : CodePointSet) : Bool := s.spans.isEmpty

def union (s t : CodePointSet) : CodePointSet := ofSpans (s.spans.toList ++ t.spans.toList)

def gapsFrom (first : Nat) : List (Nat × Nat) → List (Nat × Nat)
  | [] => if first ≤ lastCodePoint then [(first, lastCodePoint)] else []
  | s :: rest =>
    if first < s.1 then (first, s.1 - 1) :: gapsFrom (s.2 + 1) rest
    else gapsFrom (s.2 + 1) rest

def complement (s : CodePointSet) : CodePointSet := ⟨(gapsFrom 0 s.spans.toList).toArray⟩

def inter (s t : CodePointSet) : CodePointSet :=
  (s.complement.union t.complement).complement

def diff (s t : CodePointSet) : CodePointSet := s.inter t.complement

def symmDiff (s t : CodePointSet) : CodePointSet := (s.diff t).union (t.diff s)

def unions (sets : List CodePointSet) : CodePointSet :=
  ofSpans (sets.flatMap fun s => s.spans.toList)

def search (spans : Array (Nat × Nat)) (n lo hi : Nat) : Bool :=
  if h : lo < hi then
    let mid := (lo + hi) / 2
    let s := spans.getD mid (0, 0)
    if n < s.1 then search spans n lo mid
    else if s.2 < n then search spans n (mid + 1) hi
    else true
  else false
termination_by hi - lo

def contains (s : CodePointSet) (n : Nat) : Bool := search s.spans n 0 s.spans.size

def hasChar (s : CodePointSet) (c : Char) : Bool := s.contains c.toNat

def isAscii (s : CodePointSet) : Bool := s.spans.all (·.2 < 0x80)

def single? (s : CodePointSet) : Option Char :=
  match s.spans.toList with
  | [(a, b)] => if a = b ∧ a.isValidChar then some (Char.ofNat a) else none
  | _ => none

end CodePointSet

def hexDigit? (c : Char) : Option Nat :=
  if c.isDigit then some (c.toNat - '0'.toNat)
  else if 'a' ≤ c && c ≤ 'f' then some (c.toNat - 'a'.toNat + 10)
  else if 'A' ≤ c && c ≤ 'F' then some (c.toNat - 'A'.toNat + 10)
  else none

def hexValue (t : Text) : Nat :=
  (t.filterMap hexDigit?).foldl (fun n d => 16 * n + d) 0

def readSpan (t : Text) : Nat × Nat :=
  match Text.splitFirst '-' t with
  | some (a, b) => (hexValue a, hexValue b)
  | none => (hexValue t, hexValue t)

def CodePointSet.ofTable (table : List String) : CodePointSet :=
  .ofSpans ((table.flatMap fun line => Text.words (text line)).map readSpan)

end CrsExport.Unicode
