import CrsExport.Unicode.Query
/-! The syntax of patterns: what a pattern says, piece by piece, each with the place in the
pattern where it is written. Places are counted in characters. -/

namespace CrsExport.Pattern

structure Span where
  start : Nat
  stop : Nat
  deriving DecidableEq, Repr, Inhabited

inductive Flag where
  | ignoreCase
  | multiLine
  | dotMatchesLineFeed
  | carriageReturns
  | swapGreed
  | unicode
  | ignoreBlanks
  deriving DecidableEq, Repr

structure FlagItem where
  span : Span
  flag : Option Flag
  deriving DecidableEq, Repr

def flagState (items : List FlagItem) (flag : Flag) : Option Bool :=
  go true items
where
  go (on : Bool) : List FlagItem → Option Bool
    | [] => none
    | ⟨_, none⟩ :: rest => go false rest
    | ⟨_, some f⟩ :: rest => if f = flag then some on else go on rest

structure Literal where
  span : Span
  char : Char
  maybeByte : Bool := false
  deriving DecidableEq, Repr

inductive Assertion where
  | lineStart
  | lineEnd
  | textStart
  | textEnd
  | wordBoundary
  | notWordBoundary
  | wordStart
  | wordEnd
  | wordStartHalf
  | wordEndHalf
  deriving DecidableEq, Repr

inductive ShorthandClass where
  | digit
  | space
  | word
  deriving DecidableEq, Repr

inductive PosixClass where
  | alnum | alpha | ascii | blank | cntrl | digit | graph | lower | print | punct | space
  | upper | word | xdigit
  deriving DecidableEq, Repr

inductive SetOperator where
  | intersection
  | difference
  | symmetricDifference
  deriving DecidableEq, Repr

structure UnicodeClass where
  span : Span
  negated : Bool
  query : Unicode.Query
  deriving BEq, Repr

inductive ClassNode where
  | empty (span : Span)
  | literal (literal : Literal)
  | range (span : Span) (first last : Literal)
  | posix (span : Span) (negated : Bool) (kind : PosixClass)
  | unicode (cls : UnicodeClass)
  | shorthand (span : Span) (negated : Bool) (kind : ShorthandClass)
  | bracketed (span : Span) (negated : Bool) (set : ClassNode)
  | union (span : Span) (items : List ClassNode)
  | combine (span : Span) (op : SetOperator) (left right : ClassNode)
  deriving Repr, Inhabited

namespace ClassNode

def span : ClassNode → Span
  | empty s | range s _ _ | posix s _ _ | shorthand s _ _ | bracketed s _ _ | union s _
  | combine s _ _ _ => s
  | literal l => l.span
  | unicode c => c.span

end ClassNode

inductive GroupKind where
  | capture (index : Nat)
  | flags (items : List FlagItem)
  deriving DecidableEq, Repr

inductive Node where
  | empty (span : Span)
  | flags (span : Span) (items : List FlagItem)
  | literal (literal : Literal)
  | dot (span : Span)
  | assertion (span : Span) (kind : Assertion)
  | unicode (cls : UnicodeClass)
  | shorthand (span : Span) (negated : Bool) (kind : ShorthandClass)
  | bracketed (span : Span) (negated : Bool) (set : ClassNode)
  | repetition (span : Span) (least : Nat) (greatest : Option Nat) (greedy : Bool)
    (node : Node)
  | group (span : Span) (kind : GroupKind) (node : Node)
  | alternation (span : Span) (branches : List Node)
  | concat (span : Span) (parts : List Node)
  deriving Repr, Inhabited

namespace Node

def span : Node → Span
  | empty s | flags s _ | dot s | assertion s _ | shorthand s _ _ | bracketed s _ _
  | repetition s _ _ _ _ | group s _ _ | alternation s _ | concat s _ => s
  | literal l => l.span
  | unicode c => c.span

end Node

structure Parsed where
  root : Node
  groups : Nat
  names : List (Text × Nat)
  deriving Repr

end CrsExport.Pattern
