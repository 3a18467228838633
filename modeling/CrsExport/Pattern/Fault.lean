import CrsExport.Pattern.Syntax
import CrsExport.Text.Numeral
/-! What can be wrong with a pattern, and the report that shows the place. -/

namespace CrsExport.Pattern

def nestLimit : Nat := 250

def sizeLimit : Nat := 10485760

inductive FaultKind where
  | classEscapeInvalid
  | classRangeInvalid
  | classRangeLiteral
  | classUnclosed
  | decimalInvalid
  | escapeHexEmpty
  | escapeHexInvalid
  | escapeHexInvalidDigit
  | escapeUnexpectedEnd
  | escapeUnrecognized
  | flagDanglingNegation
  | flagDuplicate
  | flagRepeatedNegation
  | flagUnexpectedEnd
  | flagUnrecognized
  | groupNameDuplicate
  | groupNameEmpty
  | groupNameInvalid
  | groupNameUnexpectedEnd
  | groupUnclosed
  | groupUnopened
  | nestLimitExceeded
  | repetitionCountInvalid
  | repetitionCountDecimalEmpty
  | repetitionCountUnclosed
  | repetitionMissing
  | specialWordBoundaryUnclosed
  | specialWordBoundaryUnrecognized
  | specialWordOrRepetitionUnexpectedEnd
  | unicodeClassInvalid
  | unsupportedBackreference
  | unsupportedLookAround
  | unicodeNotAllowed
  | invalidUtf8
  | unicodePropertyNotFound
  | unicodePropertyValueNotFound
  | tooLarge
  deriving DecidableEq, Repr

def FaultKind.message : FaultKind → String
  | classEscapeInvalid => "invalid escape sequence found in character class"
  | classRangeInvalid => "invalid character class range, the start must be <= the end"
  | classRangeLiteral => "invalid range boundary, must be a literal"
  | classUnclosed => "unclosed character class"
  | decimalInvalid => "decimal literal invalid"
  | escapeHexEmpty => "hexadecimal literal empty"
  | escapeHexInvalid => "hexadecimal literal is not a Unicode scalar value"
  | escapeHexInvalidDigit => "invalid hexadecimal digit"
  | escapeUnexpectedEnd =>
    "incomplete escape sequence, reached end of pattern prematurely"
  | escapeUnrecognized => "unrecognized escape sequence"
  | flagDanglingNegation => "dangling flag negation operator"
  | flagDuplicate => "duplicate flag"
  | flagRepeatedNegation => "flag negation operator repeated"
  | flagUnexpectedEnd => "expected flag but got end of regex"
  | flagUnrecognized => "unrecognized flag"
  | groupNameDuplicate => "duplicate capture group name"
  | groupNameEmpty => "empty capture group name"
  | groupNameInvalid => "invalid capture group character"
  | groupNameUnexpectedEnd => "unclosed capture group name"
  | groupUnclosed => "unclosed group"
  | groupUnopened => "unopened group"
  | nestLimitExceeded =>
    "exceed the maximum number of nested parentheses/brackets (" ++ toString nestLimit ++ ")"
  | repetitionCountInvalid =>
    "invalid repetition count range, the start must be <= the end"
  | repetitionCountDecimalEmpty => "repetition quantifier expects a valid decimal"
  | repetitionCountUnclosed => "unclosed counted repetition"
  | repetitionMissing => "repetition operator missing expression"
  | specialWordBoundaryUnclosed =>
    "special word boundary assertion is either unclosed or contains an invalid character"
  | specialWordBoundaryUnrecognized =>
    "unrecognized special word boundary assertion, valid choices are: start, end, " ++
    "start-half or end-half"
  | specialWordOrRepetitionUnexpectedEnd =>
    "found either the beginning of a special word boundary or a bounded repetition on a " ++
    "\\b with an opening brace, but no closing brace"
  | unicodeClassInvalid => "invalid Unicode character class"
  | unsupportedBackreference => "backreferences are not supported"
  | unsupportedLookAround =>
    "look-around, including look-ahead and look-behind, is not supported"
  | unicodeNotAllowed => "Unicode not allowed here"
  | invalidUtf8 => "pattern can match invalid UTF-8"
  | unicodePropertyNotFound => "Unicode property not found"
  | unicodePropertyValueNotFound => "Unicode property value not found"
  | tooLarge => "Compiled regex exceeds size limit of " ++ toString sizeLimit ++ " bytes."

structure Fault where
  kind : FaultKind
  span : Span
  earlier : Option Span := none
  deriving DecidableEq, Repr

structure Place where
  line : Nat
  column : Nat
  deriving DecidableEq, Repr

def placeAt (pattern : Text) (offset : Nat) : Place :=
  (pattern.take offset).foldl
    (fun p c => if c == '\n' then ⟨p.line + 1, 1⟩ else ⟨p.line, p.column + 1⟩) ⟨1, 1⟩

def carets (blanks : Nat) (spans : List (Nat × Nat)) : Text :=
  List.replicate blanks ' ' ++
    (spans.foldl (fun (row, pos) (first, stop) =>
      let row := row ++ List.replicate (first - 1 - pos) ' '
      let pos := max pos (first - 1)
      let count := max 1 (stop - first)
      (row ++ List.replicate count '^', pos + count)) (([] : Text), 0)).1

namespace Fault

def spans (f : Fault) : List Span :=
  match f.earlier with
  | none => [f.span]
  | some e =>
    if e.start < f.span.start || (e.start == f.span.start && e.stop ≤ f.span.stop) then
      [e, f.span]
    else [f.span, e]

def onLine (f : Fault) (pattern : Text) (line : Nat) : List (Nat × Nat) :=
  f.spans.filterMap fun s =>
    let a := placeAt pattern s.start
    let b := placeAt pattern s.stop
    if a.line = line ∧ b.line = line then some (a.column, b.column) else none

def acrossLines (f : Fault) (pattern : Text) : List String :=
  f.spans.filterMap fun s =>
    let a := placeAt pattern s.start
    let b := placeAt pattern s.stop
    if a.line = b.line then none
    else some ("on line " ++ toString a.line ++ " (column " ++ toString a.column ++
      ") through line " ++ toString b.line ++ " (column " ++ toString (b.column - 1) ++ ")")

def placedReport (f : Fault) (pattern : Text) : Text :=
  let ls := Text.lines pattern
  let several := pattern.contains '\n'
  let count := ls.length + if pattern.getLast? = some '\n' then 1 else 0
  let width := if count ≤ 1 then 0 else (Text.ofNat count).length
  let rows := (ls.zipIdx 1).flatMap fun (l, number) =>
    let digits := Text.ofNat number
    let front :=
      if width = 0 then text "    "
      else List.replicate (width - digits.length) ' ' ++ digits ++ text ": "
    let marks := f.onLine pattern number
    let under :=
      if marks.isEmpty then []
      else carets (if width = 0 then 4 else width + 2) marks ++ ['\n']
    front ++ l ++ ['\n'] ++ under
  let rule := if several then List.replicate 79 '~' ++ ['\n'] else []
  let notes := (f.acrossLines pattern).flatMap fun n => text n ++ ['\n']
  text "regex parse error:\n" ++ rule ++ rows ++ rule ++
    (if several then notes else []) ++ text "error: " ++ text f.kind.message

def report (f : Fault) (pattern : Text) : Text :=
  if f.kind = .tooLarge then text f.kind.message else f.placedReport pattern

end Fault
end CrsExport.Pattern
