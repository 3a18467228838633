import CrsExport.Text.Quoted
import CrsExport.Decimal.Shortest
/-! What can be wrong with a rules document, and where. -/

namespace CrsExport.Rules

inductive Found where
  | null
  | boolean (value : Bool)
  | integer (value : Int)
  | float (bits : UInt64)
  | string (value : Text)
  | sequence
  | map
  deriving DecidableEq, Repr

def numberStyle : Decimal.Style := ⟨-5, 15⟩

def Found.describe : Found → Text
  | null => text "null"
  | boolean b => text "boolean `" ++ text (if b then "true" else "false") ++ text "`"
  | integer n => text "integer `" ++ text (toString n) ++ text "`"
  | float bits => text "floating point `" ++ Decimal.renderBits numberStyle bits ++ text "`"
  | string s => text "string " ++ Text.quote s
  | sequence => text "sequence"
  | map => text "map"

inductive FaultKind where
  | endInValue
  | endInList
  | endInObject
  | endInString
  | expectedValue
  | expectedColon
  | expectedObjectCommaOrEnd
  | expectedListCommaOrEnd
  | expectedIdent
  | keyMustBeString
  | trailingComma
  | trailingCharacters
  | invalidNumber
  | numberOutOfRange
  | invalidEscape
  | controlCharacter
  | unexpectedEndOfHexEscape
  | loneLeadingSurrogate
  | invalidType (found : Found) (expected : String)
  | invalidLength (length : Nat) (expected : String)
  | missingField (name : String)
  | duplicateField (name : String)
  deriving DecidableEq, Repr

def FaultKind.message : FaultKind → Text
  | endInValue => text "EOF while parsing a value"
  | endInList => text "EOF while parsing a list"
  | endInObject => text "EOF while parsing an object"
  | endInString => text "EOF while parsing a string"
  | expectedValue => text "expected value"
  | expectedColon => text "expected `:`"
  | expectedObjectCommaOrEnd => text "expected `,` or `\x7d`"
  | expectedListCommaOrEnd => text "expected `,` or `]`"
  | expectedIdent => text "expected ident"
  | keyMustBeString => text "key must be a string"
  | trailingComma => text "trailing comma"
  | trailingCharacters => text "trailing characters"
  | invalidNumber => text "invalid number"
  | numberOutOfRange => text "number out of range"
  | invalidEscape => text "invalid escape"
  | controlCharacter =>
    text "control character (\\u0000-\\u001F) found while parsing a string"
  | unexpectedEndOfHexEscape => text "unexpected end of hex escape"
  | loneLeadingSurrogate => text "lone leading surrogate in hex escape"
  | invalidType found expected =>
    text "invalid type: " ++ found.describe ++ text ", expected " ++ text expected
  | invalidLength n expected =>
    text "invalid length " ++ Text.ofNat n ++ text ", expected " ++ text expected
  | missingField name => text "missing field `" ++ text name ++ text "`"
  | duplicateField name => text "duplicate field `" ++ text name ++ text "`"

structure Fault where
  kind : FaultKind
  line : Nat
  column : Nat
  deriving DecidableEq, Repr

def Fault.message (f : Fault) : Text :=
  f.kind.message ++ text " at line " ++ Text.ofNat f.line ++ text " column " ++
    Text.ofNat f.column

end CrsExport.Rules
