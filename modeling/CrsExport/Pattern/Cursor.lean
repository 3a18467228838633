import CrsExport.Pattern.Fault
/-! The place where a pattern is being read, and the steps that read on from it. -/

namespace CrsExport.Pattern

structure Cursor where
  rest : Text
  offset : Nat := 0
  verbose : Bool := false
  groups : Nat := 0
  names : List (Text × Nat × Span) := []

abbrev Read := StateT Cursor (Except Fault)

def passBlanks (inComment : Bool) : Text → Nat → Text × Nat
  | [], n => ([], n)
  | c :: t, n =>
    if inComment then passBlanks (c != '\n') t (n + 1)
    else if Text.isBlank c then passBlanks false t (n + 1)
    else if c == '#' then passBlanks true t (n + 1)
    else (c :: t, n)

/-- What stands after the current character when blanks are passed over. A character inside
a comment ends the search, unless it is blank; if nothing ends it, the character right
after the current one is the answer. -/
def nextVisible (afterSign : Bool) : Text → Option Char
  | [] => none
  | c :: t =>
    if Text.isBlank c then nextVisible afterSign t
    else if !afterSign && c == '#' then nextVisible true t
    else some c

namespace Read

def peek : Read (Option Char) := do return (← get).rest.head?

def offset : Read Nat := do return (← get).offset

def atEnd : Read Bool := do return (← get).rest.isEmpty

def advance : Read Unit :=
  modify fun c => match c.rest with
    | [] => c
    | _ :: t => { c with rest := t, offset := c.offset + 1 }

def blanks : Read Unit :=
  modify fun c =>
    if c.verbose then
      let (t, n) := passBlanks false c.rest 0
      { c with rest := t, offset := c.offset + n }
    else c

def advanceBlanks : Read Unit := do advance; blanks

def take (word : Text) : Read Bool := do
  let c ← get
  if word.isPrefixOf c.rest then
    set { c with rest := c.rest.drop word.length, offset := c.offset + word.length }
    return true
  else return false

def peekNext : Read (Option Char) := do return (← get).rest.tail.head?

def peekPastBlanks : Read (Option Char) := do
  let c ← get
  if c.verbose then
    let after := c.rest.tail
    return match nextVisible false after with
      | some found => some found
      | none => after.head?
  else return c.rest.tail.head?

def failAt {α : Type} (kind : FaultKind) (start stop : Nat) : Read α :=
  throw { kind, span := ⟨start, stop⟩ }

def failChar {α : Type} (kind : FaultKind) : Read α := do
  let o ← offset
  failAt kind o (o + 1)

def failHere {α : Type} (kind : FaultKind) : Read α := do
  let o ← offset
  failAt kind o o

def failFrom {α : Type} (kind : FaultKind) (start : Nat) : Read α := do
  failAt kind start (← offset)

end Read
end CrsExport.Pattern
