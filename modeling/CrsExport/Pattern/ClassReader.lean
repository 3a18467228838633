import CrsExport.Pattern.Escape
/-! Reading what stands between brackets. The brackets and the set operators that are still
open are kept on a stack, so the nesting is as deep as the pattern makes it. -/

namespace CrsExport.Pattern

structure ItemRun where
  start : Nat
  stop : Nat
  items : List ClassNode := []

namespace ItemRun

def add (r : ItemRun) (item : ClassNode) : ItemRun :=
  { start := if r.items.isEmpty then item.span.start else r.start
    stop := item.span.stop, items := item :: r.items }

def toNode (r : ItemRun) : ClassNode :=
  match r.items with
  | [] => .empty ⟨r.start, r.stop⟩
  | [item] => item
  | items => .union ⟨r.start, r.stop⟩ items.reverse

end ItemRun

inductive ClassFrame where
  | bracket (outer : ItemRun) (span : Span) (negated : Bool)
  | operator (op : SetOperator) (left : ClassNode)

namespace Read

def failUnclosedClass {α : Type} (stack : List ClassFrame) : Read α :=
  let open? := stack.findSome? fun
    | .bracket _ span _ => some span
    | .operator _ _ => none
  throw { kind := .classUnclosed, span := open?.getD ⟨0, 0⟩ }

def closeOperator (right : ClassNode) : List ClassFrame → ClassNode × List ClassFrame
  | .operator op left :: stack =>
    (.combine ⟨left.span.start, right.span.stop⟩ op left right, stack)
  | stack => (right, stack)

def posixClass (name : Text) : Option PosixClass :=
  let table : List (String × PosixClass) :=
    [("alnum", .alnum), ("alpha", .alpha), ("ascii", .ascii), ("blank", .blank),
     ("cntrl", .cntrl), ("digit", .digit), ("graph", .graph), ("lower", .lower),
     ("print", .print), ("punct", .punct), ("space", .space), ("upper", .upper),
     ("word", .word), ("xdigit", .xdigit)]
  (table.find? fun e => text e.1 == name).map (·.2)

def posixItem : Read (Option ClassNode) := do
  let before ← get
  match before.rest with
  | '[' :: ':' :: t =>
    let (negated, t, passed) := match t with
      | '^' :: t => (true, t, 3)
      | t => (false, t, 2)
    let name := t.takeWhile (· != ':')
    match posixClass name, t.drop name.length with
    | some kind, ':' :: ']' :: after =>
      let stop := before.offset + passed + name.length + 2
      set { before with rest := after, offset := stop }
      return some (.posix ⟨before.offset, stop⟩ negated kind)
    | _, _ => return none
  | _ => return none

def leadingHyphens (start : Nat) : Nat → ItemRun → Read ItemRun
  | 0, run => return run
  | fuel + 1, run => do
    if (← peek) == some '-' then
      let o ← offset
      let run := run.add (.literal { span := ⟨o, o + 1⟩, char := '-' })
      advanceBlanks
      if ← atEnd then failAt .classUnclosed start start
      leadingHyphens start fuel run
    else return run

def openBracket : Read (Span × Bool × ItemRun) := do
  let start ← offset
  advanceBlanks
  if ← atEnd then failFrom .classUnclosed start
  let negated := (← peek) == some '^'
  if negated then
    advanceBlanks
    if ← atEnd then failFrom .classUnclosed start
  let first ← offset
  let run ← leadingHyphens start ((← get).rest.length + 1) ⟨first, first, []⟩
  let c ← peek
  if run.items.isEmpty && c == some ']' then
    let o ← offset
    let run := run.add (.literal { span := ⟨o, o + 1⟩, char := ']' })
    advanceBlanks
    if ← atEnd then failFrom .classUnclosed start
    return (⟨start, ← offset⟩, negated, run)
  else return (⟨start, ← offset⟩, negated, run)

def classPrimitive (c : Char) : Read Primitive := do
  if c == '\\' then escape
  else
    let o ← offset
    advance
    return .literal { span := ⟨o, o + 1⟩, char := c }

def classItem (stack : List ClassFrame) (c : Char) : Read ClassNode := do
  let first ← classPrimitive c
  blanks
  if ← atEnd then failUnclosedClass stack
  let following ← peekPastBlanks
  if (← peek) != some '-' || following == some ']' || following == some '-' then
    first.toItem
  else
    advanceBlanks
    match ← peek with
    | none => failUnclosedClass stack
    | some d =>
      let last ← classPrimitive d
      let span : Span := ⟨first.span.start, last.span.stop⟩
      let low ← first.toBound
      let high ← last.toBound
      if high.char < low.char then throw { kind := .classRangeInvalid, span }
      return .range span low high

def setOperator (c : Char) (d : Option Char) : Option SetOperator :=
  if d != some c then none
  else match c with
    | '&' => some .intersection
    | '-' => some .difference
    | '~' => some .symmetricDifference
    | _ => none

def classLoop : Nat → List ClassFrame → ItemRun → Read Node
  | 0, stack, _ => failUnclosedClass stack
  | fuel + 1, stack, run => do
    blanks
    match ← peek with
    | none => failUnclosedClass stack
    | some c =>
      if c == '[' then
        let posix ← if stack.isEmpty then pure none else posixItem
        match posix with
        | some item => classLoop fuel stack (run.add item)
        | none =>
          let (span, negated, inner) ← openBracket
          classLoop fuel (.bracket run span negated :: stack) inner
      else if c == ']' then
        let (set, stack) := closeOperator run.toNode stack
        match stack with
        | .bracket outer span negated :: stack =>
          advance
          let span : Span := ⟨span.start, ← offset⟩
          match stack with
          | [] => return .bracketed span negated set
          | stack => classLoop fuel stack (outer.add (.bracketed span negated set))
        | stack => failUnclosedClass stack
      else
        match setOperator c (← peekNext) with
        | some op =>
          advance
          advance
          let (left, stack) := closeOperator run.toNode stack
          let o ← offset
          classLoop fuel (.operator op left :: stack) ⟨o, o, []⟩
        | none =>
          let item ← classItem stack c
          classLoop fuel stack (run.add item)

def bracketed : Read Node := do
  let o ← offset
  classLoop ((← get).rest.length + 1) [] ⟨o, o, []⟩

end Read
end CrsExport.Pattern
