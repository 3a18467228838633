import CrsExport.Pattern.Reader
import CrsExport.Pattern.Expr
import CrsExport.Unicode.CaseFold
/-! From the syntax of a pattern to its meaning. The flags that hold at a place come from
the flag lists before it and around it. -/

namespace CrsExport.Pattern

open Unicode (CodePointSet)

structure Flags where
  ignoreCase : Bool := false
  multiLine : Bool := false
  dotMatchesLineFeed : Bool := false
  carriageReturns : Bool := false
  swapGreed : Bool := false
  unicode : Bool := true
  deriving DecidableEq, Repr

namespace Flags

def apply (f : Flags) (items : List FlagItem) : Flags where
  ignoreCase := (flagState items .ignoreCase).getD f.ignoreCase
  multiLine := (flagState items .multiLine).getD f.multiLine
  dotMatchesLineFeed := (flagState items .dotMatchesLineFeed).getD f.dotMatchesLineFeed
  carriageReturns := (flagState items .carriageReturns).getD f.carriageReturns
  swapGreed := (flagState items .swapGreed).getD f.swapGreed
  unicode := (flagState items .unicode).getD f.unicode

end Flags

def PosixClass.set : PosixClass → CodePointSet
  | alnum => .ofSpans [(0x30, 0x39), (0x41, 0x5A), (0x61, 0x7A)]
  | alpha => .ofSpans [(0x41, 0x5A), (0x61, 0x7A)]
  | ascii => .ofSpans [(0, 0x7F)]
  | blank => .ofChars ['\t', ' ']
  | cntrl => .ofSpans [(0, 0x1F), (0x7F, 0x7F)]
  | digit => .ofSpans [(0x30, 0x39)]
  | graph => .ofSpans [(0x21, 0x7E)]
  | lower => .ofSpans [(0x61, 0x7A)]
  | print => .ofSpans [(0x20, 0x7E)]
  | punct => .ofSpans [(0x21, 0x2F), (0x3A, 0x40), (0x5B, 0x60), (0x7B, 0x7E)]
  | space => .ofSpans [(0x09, 0x0D), (0x20, 0x20)]
  | upper => .ofSpans [(0x41, 0x5A)]
  | word => .ofSpans [(0x30, 0x39), (0x41, 0x5A), (0x5F, 0x5F), (0x61, 0x7A)]
  | xdigit => .ofSpans [(0x30, 0x39), (0x41, 0x46), (0x61, 0x66)]

def ShorthandClass.set (unicode : Bool) : ShorthandClass → CodePointSet
  | digit => if unicode then Unicode.Property.decimalDigits else PosixClass.digit.set
  | space => if unicode then Unicode.Property.whiteSpace else PosixClass.space.set
  | word => if unicode then Unicode.Property.wordCharacters else PosixClass.word.set

def closeAsciiCase (s : CodePointSet) : CodePointSet :=
  let letters := (List.range 26).filter fun i =>
    s.contains (0x41 + i) || s.contains (0x61 + i)
  s.union (.ofSpans (letters.flatMap fun i => [(0x41 + i, 0x41 + i), (0x61 + i, 0x61 + i)]))

namespace Flags

def closeCase (f : Flags) (s : CodePointSet) : CodePointSet :=
  if !f.ignoreCase then s
  else if f.unicode then Unicode.CaseFold.close s else closeAsciiCase s

/-- A set as the flags see it, or the other characters. Outside of Unicode a set stands for
bytes, and one with a byte that is not ASCII could match a part of a character. -/
def finish (f : Flags) (span : Span) (negated : Bool) (s : CodePointSet) :
    Except Fault CodePointSet :=
  let s := f.closeCase s
  if f.unicode then .ok (if negated then s.complement else s)
  else if negated || !s.isAscii then .error { kind := .invalidUtf8, span }
  else .ok s

def shorthand (f : Flags) (span : Span) (negated : Bool) (kind : ShorthandClass) :
    Except Fault CodePointSet :=
  { f with ignoreCase := false }.finish span negated (kind.set f.unicode)

def unicodeClass (f : Flags) (c : UnicodeClass) : Except Fault CodePointSet :=
  if !f.unicode then .error { kind := .unicodeNotAllowed, span := c.span }
  else match c.query.resolve with
    | .error .propertyNotFound =>
      .error { kind := .unicodePropertyNotFound, span := c.span }
    | .error .valueNotFound =>
      .error { kind := .unicodePropertyValueNotFound, span := c.span }
    | .ok s => f.finish c.span c.negated s

def literal (f : Flags) (l : Literal) : Except Fault Char :=
  if !f.unicode && l.maybeByte && l.char.toNat > 0x7F then
    .error { kind := .invalidUtf8, span := l.span }
  else .ok l.char

def classLiteral (f : Flags) (l : Literal) : Except Fault Nat := do
  let c ← f.literal l
  if !f.unicode && c.toNat > 0x7F then throw { kind := .unicodeNotAllowed, span := l.span }
  return c.toNat

def classSet (f : Flags) : ClassNode → Except Fault CodePointSet
  | .empty _ => .ok .empty
  | .literal l => do
    let n ← f.classLiteral l
    return .ofSpans [(n, n)]
  | .range _ first last => do
    let a ← f.classLiteral first
    let b ← f.classLiteral last
    return .ofSpans [(a, b)]
  | .posix span negated kind => f.finish span negated kind.set
  | .unicode c => f.unicodeClass c
  | .shorthand span negated kind => f.shorthand span negated kind
  | .bracketed span negated set => do f.finish span negated (← f.classSet set)
  | .union _ items => unionOf items
  | .combine _ op left right => do
    let l ← f.classSet left
    let r ← f.classSet right
    let l := f.closeCase l
    let r := f.closeCase r
    return match op with
      | .intersection => l.inter r
      | .difference => l.diff r
      | .symmetricDifference => l.symmDiff r
where
  unionOf : List ClassNode → Except Fault CodePointSet
    | [] => .ok .empty
    | item :: items => do
      let s ← f.classSet item
      return s.union (← unionOf items)

def look (f : Flags) : Assertion → Look
  | .lineStart =>
    if !f.multiLine then .start else if f.carriageReturns then .startLineReturns
    else .startLine
  | .lineEnd =>
    if !f.multiLine then .stop else if f.carriageReturns then .endLineReturns
    else .endLine
  | .textStart => .start
  | .textEnd => .stop
  | .wordBoundary => .word f.unicode
  | .notWordBoundary => .notWord f.unicode
  | .wordStart => .wordStart f.unicode
  | .wordEnd => .wordEnd f.unicode
  | .wordStartHalf => .wordStartHalf f.unicode
  | .wordEndHalf => .wordEndHalf f.unicode

def dot (f : Flags) (span : Span) : Except Fault CodePointSet :=
  if !f.unicode then .error { kind := .invalidUtf8, span }
  else if f.dotMatchesLineFeed then .ok .all
  else if f.carriageReturns then .ok (CodePointSet.ofChars ['\n', '\r']).complement
  else .ok (CodePointSet.ofChar '\n').complement

def literalExpr (f : Flags) (l : Literal) : Except Fault Expr := do
  let c ← f.literal l
  return .ofSet (f.closeCase (.ofChar c))

end Flags

def Node.meaning (f : Flags) : Node → Except Fault (Expr × Flags)
  | .empty _ => .ok (.empty, f)
  | .flags _ items => .ok (.empty, f.apply items)
  | .literal l => do return (← f.literalExpr l, f)
  | .dot span => do return (.ofSet (← f.dot span), f)
  | .assertion _ kind => .ok (.look (f.look kind), f)
  | .unicode c => do return (.ofSet (← f.unicodeClass c), f)
  | .shorthand span negated kind => do return (.ofSet (← f.shorthand span negated kind), f)
  | .bracketed span negated set => do
    return (.ofSet (← f.finish span negated (← f.classSet set)), f)
  | .repetition _ least greatest greedy node => do
    let (body, f) ← node.meaning f
    return (.ofRepetition least greatest (greedy != f.swapGreed) body, f)
  | .group _ (.capture index) node => do
    let (body, _) ← node.meaning f
    return (.capture index body, f)
  | .group _ (.flags items) node => do
    let (body, _) ← node.meaning (f.apply items)
    return (body, f)
  | .alternation _ branches => do
    let (es, f) ← meanings f branches
    return (.ofChoice (branches.length + 1) es, f)
  | .concat _ parts => do
    let (es, f) ← meanings f parts
    return (.ofConcat es, f)
where
  meanings (f : Flags) : List Node → Except Fault (List Expr × Flags)
    | [] => .ok ([], f)
    | node :: nodes => do
      let (e, f) ← node.meaning f
      let (es, f) ← meanings f nodes
      return (e :: es, f)

def Parsed.meaning (p : Parsed) : Except Fault Expr := do
  return (← p.root.meaning {}).1

end CrsExport.Pattern
