import CrsExport.Rules.Fault
import CrsExport.Text.Utf8
/-! The bytes of a rules document, read from front to back, and its smallest parts: words,
numbers and strings. -/

namespace CrsExport.Rules

structure Scan where
  rest : List UInt8
  offset : Nat := 0

structure Stop where
  kind : FaultKind
  offset : Nat

abbrev Read := StateT Scan (Except Stop)

namespace Read

def peek : Read (Option UInt8) := do return (← get).rest.head?

def advance : Read Unit :=
  modify fun s => match s.rest with
    | [] => s
    | _ :: t => { rest := t, offset := s.offset + 1 }

def next : Read (Option UInt8) := do
  let b ← peek
  advance
  return b

def fail {α : Type} (kind : FaultKind) : Read α := do
  throw { kind, offset := (← get).offset }

def failNext {α : Type} (kind : FaultKind) : Read α := do
  let s ← get
  throw { kind, offset := if s.rest.isEmpty then s.offset else s.offset + 1 }

def isBlank (b : UInt8) : Bool := b == 0x20 || b == 0x09 || b == 0x0A || b == 0x0D

def peekPastBlanks : Read (Option UInt8) := do
  modify fun s =>
    let t := s.rest.dropWhile isBlank
    { rest := t, offset := s.offset + (s.rest.length - t.length) }
  peek

def isDigit (b : UInt8) : Bool := 0x30 ≤ b && b ≤ 0x39

def peekDigit : Read (Option Nat) := do
  return (← peek).bind fun b => if isDigit b then some (b.toNat - 0x30) else none

def passDigits : Read Nat :=
  modifyGet fun s =>
    let t := s.rest.dropWhile isDigit
    let n := s.rest.length - t.length
    (n, { rest := t, offset := s.offset + n })

def word : List Char → Read Unit
  | [] => return ()
  | c :: cs => do
    match ← next with
    | none => fail .endInValue
    | some b => if b.toNat = c.toNat then word cs else fail .expectedIdent

def greatestInteger : Nat := 18446744073709551615

def scale : Nat → Float → Int → Option Float
  | 0, f, _ => some f
  | fuel + 1, f, exponent =>
    if exponent.natAbs ≤ 308 then
      let power := Float.ofScientific 1 false exponent.natAbs
      if 0 ≤ exponent then
        if (f * power).isInf then none else some (f * power)
      else some (f / power)
    else if f == 0.0 then some f
    else if 0 ≤ exponent then none
    else scale fuel (f / Float.ofScientific 1 false 308) (exponent + 308)

def float (positive : Bool) (significand : Nat) (exponent : Int) : Read Found := do
  match scale 8 significand.toUInt64.toFloat exponent with
  | none => fail .numberOutOfRange
  | some f => return .float (if positive then f else -f).toBits

def greatestExponent : Nat := 2147483647

/-- Reads the digits of an exponent after the first one. An exponent that gets too large
makes zero, unless it is positive and the number is not zero. -/
def exponentDigits (positive : Bool) (significand : Nat) (start : Int) (raise : Bool) :
    Nat → Nat → Read Found
  | 0, _ => fail .numberOutOfRange
  | fuel + 1, exponent => do
    match ← peekDigit with
    | some d =>
      advance
      if 10 * exponent + d > greatestExponent then
        if significand != 0 && raise then fail .numberOutOfRange
        let _ ← passDigits
        return .float (if positive then (0.0 : Float) else -0.0).toBits
      else exponentDigits positive significand start raise fuel (10 * exponent + d)
    | none =>
      float positive significand (if raise then start + exponent else start - exponent)

def exponent (positive : Bool) (significand : Nat) (start : Int) : Read Found := do
  advance
  let sign ← peek
  let raise := sign != some 0x2D
  if sign == some 0x2B || sign == some 0x2D then advance
  match ← next with
  | none => fail .endInValue
  | some b =>
    if isDigit b then
      exponentDigits positive significand start raise ((← get).rest.length + 1)
        (b.toNat - 0x30)
    else fail .invalidNumber

def isExponentLetter (b : Option UInt8) : Bool := b == some 0x65 || b == some 0x45

def afterDigits (positive : Bool) (significand : Nat) (e : Int) : Read Found := do
  if isExponentLetter (← peek) then exponent positive significand e
  else float positive significand e

def fractionDigits (positive : Bool) (e : Int) : Nat → Nat → Nat → Read Found
  | 0, significand, count => float positive significand (e - count)
  | fuel + 1, significand, count => do
    match ← peekDigit with
    | some d =>
      if 10 * significand + d > greatestInteger then
        let _ ← passDigits
        afterDigits positive significand (e - count)
      else
        advance
        fractionDigits positive e fuel (10 * significand + d) (count + 1)
    | none =>
      if count = 0 then
        match ← peek with
        | some _ => failNext .invalidNumber
        | none => failNext .endInValue
      else afterDigits positive significand (e - count)

def fraction (positive : Bool) (significand : Nat) (e : Int) : Read Found := do
  advance
  fractionDigits positive e ((← get).rest.length + 1) significand 0

def afterInteger (positive : Bool) (significand : Nat) : Read Found := do
  let b ← peek
  if b == some 0x2E then fraction positive significand 0
  else if isExponentLetter b then exponent positive significand 0
  else if positive then return .integer significand
  else if significand = 0 ∨ 9223372036854775808 < significand then
    return .float (-significand.toUInt64.toFloat).toBits
  else return .integer (-significand)

def integerDigits (positive : Bool) : Nat → Nat → Read Found
  | 0, significand => afterInteger positive significand
  | fuel + 1, significand => do
    match ← peekDigit with
    | some d =>
      if 10 * significand + d > greatestInteger then
        let count ← passDigits
        if (← peek) == some 0x2E then fraction positive significand count
        else afterDigits positive significand count
      else
        advance
        integerDigits positive fuel (10 * significand + d)
    | none => afterInteger positive significand

def number (positive : Bool) : Read Found := do
  match ← next with
  | none => fail .endInValue
  | some b =>
    if b == 0x30 then
      if (← peekDigit).isSome then failNext .invalidNumber
      else afterInteger positive 0
    else if isDigit b then
      integerDigits positive ((← get).rest.length + 1) (b.toNat - 0x30)
    else fail .invalidNumber

def hexValue? (bytes : List UInt8) : Option Nat :=
  bytes.foldl (fun n b => do
    let n ← n
    let d ← Unicode.hexDigit? (Char.ofNat b.toNat)
    return 16 * n + d) (some 0)

def hexDigits : Read Nat := do
  let s ← get
  let four := s.rest.take 4
  set { s with rest := s.rest.drop 4, offset := s.offset + four.length }
  if four.length < 4 then fail .endInString
  match hexValue? four with
  | some n => return n
  | none => fail .invalidEscape

def peekInString : Read UInt8 := do
  match ← peek with
  | some b => return b
  | none => fail .endInString

def unicodeEscape : Read Text := do
  let n ← hexDigits
  if 0xDC00 ≤ n ∧ n ≤ 0xDFFF then fail .loneLeadingSurrogate
  if n < 0xD800 ∨ 0xDBFF < n then return [Char.ofNat n]
  for expected in [(0x5C : UInt8), 0x75] do
    let b ← peekInString
    advance
    if b != expected then fail .unexpectedEndOfHexEscape
  let low ← hexDigits
  if low < 0xDC00 ∨ 0xDFFF < low then fail .loneLeadingSurrogate
  return [Char.ofNat (0x10000 + (n - 0xD800) * 0x400 + (low - 0xDC00))]

def shortEscape (b : UInt8) : Option Char :=
  match Char.ofNat b.toNat with
  | '"' => some '"'
  | '\\' => some '\\'
  | '/' => some '/'
  | 'b' => some '\x08'
  | 'f' => some '\x0C'
  | 'n' => some '\n'
  | 'r' => some '\r'
  | 't' => some '\t'
  | _ => none

def escape : Read Text := do
  match ← next with
  | none => fail .endInString
  | some b =>
    match shortEscape b with
    | some c => return [c]
    | none => if b == 0x75 then unicodeEscape else fail .invalidEscape

def isPlain (b : UInt8) : Bool := 0x20 ≤ b && b != 0x22 && b != 0x5C

def stringRest : Nat → Text → Read Text
  | 0, acc => return acc
  | fuel + 1, acc => do
    let plain ← modifyGet fun s =>
      let run := s.rest.takeWhile isPlain
      (run, { rest := s.rest.drop run.length, offset := s.offset + run.length })
    let acc := acc ++ (Text.ofUtf8? plain).getD []
    match ← next with
    | none => fail .endInString
    | some b =>
      if b == 0x22 then return acc
      else if b == 0x5C then
        let c ← escape
        stringRest fuel (acc ++ c)
      else fail .controlCharacter

def string : Read Text := do stringRest ((← get).rest.length + 1) []

def passString : Nat → Read Unit
  | 0 => return ()
  | fuel + 1 => do
    modify fun s =>
      let t := s.rest.dropWhile isPlain
      { rest := t, offset := s.offset + (s.rest.length - t.length) }
    match ← peek with
    | none => fail .endInString
    | some b =>
      if b == 0x22 then advance
      else if b == 0x5C then
        advance
        match ← next with
        | none => fail .endInString
        | some b =>
          if b == 0x75 then
            let _ ← hexDigits
          else if (shortEscape b).isNone then fail .invalidEscape
        passString fuel
      else fail .controlCharacter

def passExponent : Read Unit := do
  advance
  let sign ← peek
  if sign == some 0x2B || sign == some 0x2D then advance
  match ← next with
  | some b => if isDigit b then let _ ← passDigits else fail .invalidNumber
  | none => fail .invalidNumber

def passNumber : Read Unit := do
  match ← next with
  | none => fail .invalidNumber
  | some b =>
    if b == 0x30 then
      if (← peekDigit).isSome then failNext .invalidNumber
    else if isDigit b then
      let _ ← passDigits
    else fail .invalidNumber
  if (← peek) == some 0x2E then
    advance
    if (← passDigits) = 0 then failNext .invalidNumber
  if isExponentLetter (← peek) then passExponent

end Read
end CrsExport.Rules
