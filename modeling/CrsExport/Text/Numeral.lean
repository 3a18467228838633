import CrsExport.Text.Blank
/-! Decimal numerals: how a number is written, and which texts are read as a number that
fits a bound. -/

namespace CrsExport.Text

def ofNat (n : Nat) : Text := Nat.toDigits 10 n

def digitsValue (ds : Text) : Nat :=
  ds.foldl (fun n d => 10 * n + (d.toNat - '0'.toNat)) 0

def unsigned : Text → Text
  | '+' :: t => t
  | t => t

def readNat (bound : Nat) (t : Text) : Option Nat :=
  let ds := unsigned t
  if !ds.isEmpty && ds.all Char.isDigit && digitsValue ds ≤ bound then
    some (digitsValue ds)
  else none

end CrsExport.Text
