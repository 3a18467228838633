import CrsExport.Unicode.CodePointSet
/-! JSON texts, read by the grammar and no more leniently. Control characters stand in strings
as escapes only, no number has a zero in front, and nothing but blanks follows the value. -/

namespace CrsExport

inductive Json where
  | null
  | bool (b : Bool)
  | number (spelling : Text)
  | string (t : Text)
  | array (items : List Json)
  | object (members : List (Text × Json))
  deriving Repr

namespace Json

abbrev Reader (α : Type) := Text → Option (α × Text)

def isSpace (c : Char) : Bool := c == ' ' || c == '\t' || c == '\n' || c == '\r'

def skipSpaces (t : Text) : Text := t.dropWhile isSpace

def shortEscape? : Char → Option Char
  | '"' => some '"'
  | '\\' => some '\\'
  | '/' => some '/'
  | 'b' => some '\x08'
  | 'f' => some '\x0C'
  | 'n' => some '\n'
  | 'r' => some '\r'
  | 't' => some '\t'
  | _ => none

def readUnit : Reader Nat
  | a :: b :: c :: d :: t => do
    let a ← Unicode.hexDigit? a
    let b ← Unicode.hexDigit? b
    let c ← Unicode.hexDigit? c
    let d ← Unicode.hexDigit? d
    some (0x1000 * a + 0x100 * b + 0x10 * c + d, t)
  | _ => none

def readNumbered (t : Text) : Option (Char × Text) := do
  let (unit, t) ← readUnit t
  if unit < 0xD800 ∨ 0xE000 ≤ unit then some (Char.ofNat unit, t)
  else
    match t with
    | '\\' :: 'u' :: t => do
      let (low, t) ← readUnit t
      if unit < 0xDC00 ∧ 0xDC00 ≤ low ∧ low < 0xE000 then
        some (Char.ofNat (0x10000 + 0x400 * (unit - 0xD800) + (low - 0xDC00)), t)
      else none
    | _ => none

def readEscape : Reader Char
  | [] => none
  | c :: t => if c = 'u' then readNumbered t else (shortEscape? c).map (·, t)

def readChar : Reader Char
  | [] => none
  | c :: t =>
    if c = '\\' then readEscape t
    else if c = '"' ∨ c.toNat < 0x20 then none
    else some (c, t)

def readChars : (fuel : Nat) → Reader Text
  | 0, _ => none
  | fuel + 1, t =>
    if t.head? = some '"' then some ([], t.tail)
    else do
      let (c, t) ← readChar t
      let (s, t) ← readChars fuel t
      some (c :: s, t)

def readString (t : Text) : Option (Text × Text) := readChars t.length t

def readDigits (t : Text) : Option (Text × Text) :=
  match t.span Char.isDigit with
  | ([], _) => none
  | taken => some taken

def readSign : Text → Text × Text
  | '-' :: t => (['-'], t)
  | t => ([], t)

def readWhole : Reader Text
  | '0' :: t => some (['0'], t)
  | t => readDigits t

def readFraction : Reader Text
  | '.' :: t => (readDigits t).map fun (ds, t) => ('.' :: ds, t)
  | t => some ([], t)

def readEitherSign : Text → Text × Text
  | '+' :: t => (['+'], t)
  | t => readSign t

def readExponent : Reader Text
  | [] => some ([], [])
  | c :: t =>
    if c = 'e' ∨ c = 'E' then
      let (sign, t) := readEitherSign t
      (readDigits t).map fun (ds, t) => (c :: sign ++ ds, t)
    else some ([], c :: t)

def readNumber (t : Text) : Option (Text × Text) := do
  let (sign, t) := readSign t
  let (whole, t) ← readWhole t
  let (fraction, t) ← readFraction t
  let (exponent, t) ← readExponent t
  some (sign ++ whole ++ fraction ++ exponent, t)

def readSequence {α : Type} (item : Reader α) (close : Char) : (fuel : Nat) → Reader (List α)
  | 0, _ => none
  | fuel + 1, t => do
    let (first, t) ← item t
    match skipSpaces t with
    | [] => none
    | c :: t =>
      if c = close then some ([first], t)
      else if c = ',' then
        (readSequence item close fuel t).map fun (rest, t) => (first :: rest, t)
      else none

def readGroup {α : Type} (item : Reader α) (close : Char) (t : Text) : Option (List α × Text) :=
  if (skipSpaces t).head? = some close then some ([], (skipSpaces t).tail)
  else readSequence item close t.length t

def readMember (value : Reader Json) (t : Text) : Option ((Text × Json) × Text) :=
  match skipSpaces t with
  | '"' :: t => do
    let (name, t) ← readString t
    match skipSpaces t with
    | ':' :: t => (value t).map fun (v, t) => ((name, v), t)
    | _ => none
  | _ => none

def readValue : (depth : Nat) → Reader Json
  | 0, _ => none
  | depth + 1, t =>
    match skipSpaces t with
    | '{' :: t =>
      (readGroup (readMember (readValue depth)) '}' t).map fun (ms, t) => (.object ms, t)
    | '[' :: t => (readGroup (readValue depth) ']' t).map fun (vs, t) => (.array vs, t)
    | '"' :: t => (readString t).map fun (s, t) => (.string s, t)
    | 't' :: 'r' :: 'u' :: 'e' :: t => some (.bool true, t)
    | 'f' :: 'a' :: 'l' :: 's' :: 'e' :: t => some (.bool false, t)
    | 'n' :: 'u' :: 'l' :: 'l' :: t => some (.null, t)
    | t => (readNumber t).map fun (n, t) => (.number n, t)

def read (t : Text) : Option Json :=
  match readValue (t.length + 1) t with
  | some (v, rest) => if (skipSpaces rest).isEmpty then some v else none
  | none => none

end Json
end CrsExport
