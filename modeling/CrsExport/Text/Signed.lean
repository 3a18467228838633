import CrsExport.Text.Numeral
/-! Numerals with a sign, and why a text is not one. -/

namespace CrsExport.Text

inductive NumeralFault where
  | empty
  | invalidDigit
  | tooLarge
  | tooSmall
  deriving DecidableEq, Repr

namespace NumeralFault

def message : NumeralFault → String
  | empty => "cannot parse integer from empty string"
  | invalidDigit => "invalid digit found in string"
  | tooLarge => "number too large to fit in target type"
  | tooSmall => "number too small to fit in target type"

end NumeralFault

def readDigits (bound : Nat) (beyond : NumeralFault) (value : Nat) :
    Text → Except NumeralFault Nat
  | [] => .ok value
  | c :: rest =>
    if !c.isDigit then .error .invalidDigit
    else
      let value := 10 * value + (c.toNat - '0'.toNat)
      if bound < value then .error beyond else readDigits bound beyond value rest

def greatestInt : Nat := 9223372036854775807

def readInt : Text → Except NumeralFault Int
  | [] => .error .empty
  | ['+'] | ['-'] => .error .invalidDigit
  | '-' :: digits => (readDigits (greatestInt + 1) .tooSmall 0 digits).map fun n => -(n : Int)
  | '+' :: digits => (readDigits greatestInt .tooLarge 0 digits).map Int.ofNat
  | digits => (readDigits greatestInt .tooLarge 0 digits).map Int.ofNat

def ofInt (n : Int) : Text := if n < 0 then '-' :: ofNat n.natAbs else ofNat n.natAbs

end CrsExport.Text
