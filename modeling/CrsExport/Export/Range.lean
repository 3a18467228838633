import CrsExport.Code
/-! Ranges of codes to scan. -/

namespace CrsExport

structure CodeRange where
  start : Code
  stop : Code
  positive : 1 ≤ start
  ascending : start < stop
  deriving DecidableEq, Repr

namespace CodeRange

def ofBounds? (start stop : Code) : Option CodeRange :=
  if h : 1 ≤ start ∧ start < stop then some ⟨start, stop, h.1, h.2⟩ else none

def count (r : CodeRange) : Nat := (r.stop - r.start).toNat

def firstCodes (r : CodeRange) (n : Nat) : List Code :=
  (List.range' r.start.toNat (min n r.count)).map UInt32.ofNat

def codes (r : CodeRange) : List Code := r.firstCodes r.count

def last (r : CodeRange) : Code := r.stop - 1

def describe (start stop : Code) : Text :=
  '[' :: start.toText ++ text ", " ++ stop.toText ++ [')']

end CodeRange
end CrsExport
