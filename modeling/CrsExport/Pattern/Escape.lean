import CrsExport.Pattern.Cursor
/-! The parts of a pattern that are written with a few characters: single characters,
escapes and the classes and conditions among them. -/

namespace CrsExport.Pattern

inductive Primitive where
  | literal (literal : Literal)
  | assertion (span : Span) (kind : Assertion)
  | dot (span : Span)
  | shorthand (span : Span) (negated : Bool) (kind : ShorthandClass)
  | unicode (cls : UnicodeClass)

namespace Primitive

def span : Primitive → Span
  | literal l => l.span
  | assertion s _ | dot s | shorthand s _ _ => s
  | unicode c => c.span

def toNode : Primitive → Node
  | literal l => .literal l
  | assertion s k => .assertion s k
  | dot s => .dot s
  | shorthand s n k => .shorthand s n k
  | unicode c => .unicode c

def toItem : Primitive → Except Fault ClassNode
  | literal l => .ok (.literal l)
  | shorthand s n k => .ok (.shorthand s n k)
  | unicode c => .ok (.unicode c)
  | p => .error { kind := .classEscapeInvalid, span := p.span }

def toBound : Primitive → Except Fault Literal
  | literal l => .ok l
  | p => .error { kind := .classRangeLiteral, span := p.span }

end Primitive

def isMeta (c : Char) : Bool :=
  [92, 46, 43, 42, 63, 40, 41, 124, 91, 93, 123, 125, 94, 36, 35, 38, 45, 126].contains
    c.toNat

def isEscapable (c : Char) : Bool :=
  isMeta c || (c.toNat < 0x80 && !c.isAlphanum && c != '<' && c != '>')

namespace Read

open Unicode (hexDigit? hexValue lastCodePoint)

def hexChar (digits : Text) : Option Char :=
  let n := hexValue digits
  if n.isValidChar then some (Char.ofNat n) else none

def hexDigits : Nat → Text → Read Text
  | 0, acc => return acc.reverse
  | count + 1, acc => do
    match ← peek with
    | none => failHere .escapeUnexpectedEnd
    | some c =>
      if (hexDigit? c).isNone then failChar .escapeHexInvalidDigit
      else
        advanceBlanks
        hexDigits count (c :: acc)

def hexUntilBrace : Nat → Text → Read Text
  | 0, acc => return acc.reverse
  | fuel + 1, acc => do
    advanceBlanks
    match ← peek with
    | none | some '}' => return acc.reverse
    | some c =>
      if (hexDigit? c).isNone then failChar .escapeHexInvalidDigit
      else hexUntilBrace fuel (c :: acc)

def hexEscape (start : Nat) (letter : Char) : Read Literal := do
  advanceBlanks
  match ← peek with
  | none => failHere .escapeUnexpectedEnd
  | some '{' =>
    let brace ← offset
    let digits ← hexUntilBrace ((← get).rest.length + 1) []
    if ← atEnd then failFrom .escapeUnexpectedEnd brace
    let stop ← offset
    advanceBlanks
    if digits.isEmpty then failFrom .escapeHexEmpty brace
    match hexChar digits with
    | none => failAt .escapeHexInvalid (brace + 1) stop
    | some c => return { span := ⟨start, ← offset⟩, char := c }
  | some _ =>
    let first ← offset
    let count := if letter == 'x' then 2 else if letter == 'u' then 4 else 8
    let digits ← hexDigits count []
    match hexChar digits with
    | none => failFrom .escapeHexInvalid first
    | some c =>
      return { span := ⟨start, ← offset⟩, char := c,
               maybeByte := letter == 'x' && c.toNat ≤ 0xFF }

def nameUntilBrace : Nat → Text → Read Text
  | 0, acc => return acc.reverse
  | fuel + 1, acc => do
    advanceBlanks
    match ← peek with
    | none | some '}' => return acc.reverse
    | some c => nameUntilBrace fuel (c :: acc)

def splitAtMark (mark : Text) : Text → Option (Text × Text)
  | [] => none
  | c :: t =>
    if mark.isPrefixOf (c :: t) then some ([], (c :: t).drop mark.length)
    else (splitAtMark mark t).map fun (a, b) => (c :: a, b)

/-- Reads what stands between the braces of a class: a name, or a property and its value
with `!=`, `:` or `=` between them, of which the first in this list counts. The answer
tells whether the class is that of the other characters. -/
def readQuery (name : Text) : Bool × Unicode.Query :=
  match splitAtMark (text "!=") name with
  | some (p, v) => (true, .valued p v)
  | none =>
    match splitAtMark (text ":") name with
    | some (p, v) => (false, .valued p v)
    | none =>
      match splitAtMark (text "=") name with
      | some (p, v) => (false, .valued p v)
      | none => (false, .named name)

def unicodeClass (start : Nat) (letter : Char) : Read UnicodeClass := do
  let negated := letter == 'P'
  advanceBlanks
  match ← peek with
  | none => failHere .escapeUnexpectedEnd
  | some '{' =>
    let name ← nameUntilBrace ((← get).rest.length + 1) []
    if ← atEnd then failHere .escapeUnexpectedEnd
    advance
    let (other, query) := readQuery name
    return { span := ⟨start, ← offset⟩, negated := negated != other, query }
  | some '\\' => failChar .unicodeClassInvalid
  | some c =>
    advanceBlanks
    return { span := ⟨start, ← offset⟩, negated, query := .named [c] }

def boundaryName : Nat → Text → Read Text
  | 0, acc => return acc.reverse
  | fuel + 1, acc => do
    match ← peek with
    | some c =>
      if c.isAlpha || c == '-' then
        advanceBlanks
        boundaryName fuel (c :: acc)
      else return acc.reverse
    | none => return acc.reverse

def specialBoundary (start : Nat) : Read (Option Assertion) := do
  let before ← get
  let brace := before.offset
  advanceBlanks
  let first ← offset
  match ← peek with
  | none => failFrom .specialWordOrRepetitionUnexpectedEnd start
  | some c =>
    if !(c.isAlpha || c == '-') then
      set before
      return none
    let name ← boundaryName ((← get).rest.length + 1) []
    if (← peek) != some '}' then failFrom .specialWordBoundaryUnclosed brace
    let stop ← offset
    advance
    if name == text "start" then return some .wordStart
    else if name == text "end" then return some .wordEnd
    else if name == text "start-half" then return some .wordStartHalf
    else if name == text "end-half" then return some .wordEndHalf
    else failAt .specialWordBoundaryUnrecognized first stop

def controlEscape : Char → Option Char
  | 'a' => some '\x07'
  | 'f' => some '\x0C'
  | 't' => some '\t'
  | 'n' => some '\n'
  | 'r' => some '\r'
  | 'v' => some '\x0B'
  | _ => none

def assertionEscape : Char → Option Assertion
  | 'A' => some .textStart
  | 'z' => some .textEnd
  | 'b' => some .wordBoundary
  | 'B' => some .notWordBoundary
  | '<' => some .wordStart
  | '>' => some .wordEnd
  | _ => none

def shorthandEscape : Char → Option (Bool × ShorthandClass)
  | 'd' => some (false, .digit)
  | 's' => some (false, .space)
  | 'w' => some (false, .word)
  | 'D' => some (true, .digit)
  | 'S' => some (true, .space)
  | 'W' => some (true, .word)
  | _ => none

def escape : Read Primitive := do
  let start ← offset
  advance
  match ← peek with
  | none => failFrom .escapeUnexpectedEnd start
  | some c =>
    if c.isDigit then failAt .unsupportedBackreference start ((← offset) + 1)
    else if c == 'x' || c == 'u' || c == 'U' then
      return .literal (← hexEscape start c)
    else if c == 'p' || c == 'P' then
      return .unicode (← unicodeClass start c)
    else
      advance
      let span : Span := ⟨start, ← offset⟩
      match shorthandEscape c, controlEscape c, assertionEscape c with
      | some (negated, kind), _, _ => return .shorthand span negated kind
      | _, some control, _ => return .literal { span, char := control }
      | _, _, some kind =>
        if kind = .wordBoundary ∧ (← peek) = some '{' then
          match ← specialBoundary start with
          | some special => return .assertion ⟨start, ← offset⟩ special
          | none => return .assertion span kind
        else return .assertion span kind
      | none, none, none =>
        if isEscapable c then return .literal { span, char := c }
        else throw { kind := .escapeUnrecognized, span }

def primitive (c : Char) : Read Primitive := do
  if c == '\\' then escape
  else
    let o ← offset
    let span : Span := ⟨o, o + 1⟩
    advance
    if c == '.' then return .dot span
    else if c == '^' then return .assertion span .lineStart
    else if c == '$' then return .assertion span .lineEnd
    else return .literal { span, char := c }

end Read
end CrsExport.Pattern
