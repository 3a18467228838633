import CrsExport.Pattern.ClassReader
import CrsExport.Unicode.Character
/-! Reading a pattern. The groups that are still open are kept on a stack. -/

namespace CrsExport.Pattern

structure PartRun where
  start : Nat
  parts : List Node := []

namespace PartRun

def toNode (r : PartRun) (stop : Nat) : Node :=
  match r.parts with
  | [] => .empty ⟨r.start, stop⟩
  | [part] => part
  | parts => .concat ⟨r.start, stop⟩ parts.reverse

end PartRun

inductive Frame where
  | group (outer : PartRun) (span : Span) (kind : GroupKind) (verbose : Bool)
  | branches (start : Nat) (branches : List Node)

namespace Read

def nextGroup : Read Nat := do
  let c ← get
  set { c with groups := c.groups + 1 }
  return c.groups + 1

def isNameChar (first : Bool) (c : Char) : Bool :=
  if first then c == '_' || Unicode.letters.hasChar c
  else c == '_' || c == '.' || c == '[' || c == ']' ||
    Unicode.lettersAndNumbers.hasChar c

def nameChars (first : Bool) : Nat → Text → Read Text
  | 0, acc => return acc.reverse
  | fuel + 1, acc => do
    match ← peek with
    | none | some '>' => return acc.reverse
    | some c =>
      if isNameChar first c then
        advance
        nameChars false fuel (c :: acc)
      else failChar .groupNameInvalid

def groupName (index : Nat) : Read Unit := do
  if ← atEnd then failHere .groupNameUnexpectedEnd
  let start ← offset
  let name ← nameChars true ((← get).rest.length + 1) []
  let stop ← offset
  if ← atEnd then failHere .groupNameUnexpectedEnd
  advance
  if name.isEmpty then failAt .groupNameEmpty start start
  let c ← get
  match c.names.find? fun e => e.1 == name with
  | some (_, _, earlier) =>
    throw { kind := .groupNameDuplicate, span := ⟨start, stop⟩, earlier := some earlier }
  | none => set { c with names := (name, index, ⟨start, stop⟩) :: c.names }

def flagOf : Char → Option Flag
  | 'i' => some .ignoreCase
  | 'm' => some .multiLine
  | 's' => some .dotMatchesLineFeed
  | 'U' => some .swapGreed
  | 'u' => some .unicode
  | 'R' => some .carriageReturns
  | 'x' => some .ignoreBlanks
  | _ => none

def flagItems : Nat → List FlagItem → Read (List FlagItem)
  | 0, items => return items.reverse
  | fuel + 1, items => do
    match ← peek with
    | none => failHere .flagUnexpectedEnd
    | some c =>
      if c == ':' || c == ')' then
        match items with
        | ⟨span, none⟩ :: _ => throw { kind := .flagDanglingNegation, span }
        | items => return items.reverse
      else
        let o ← offset
        let span : Span := ⟨o, o + 1⟩
        let flag ← if c == '-' then pure none else match flagOf c with
          | some f => pure (some f)
          | none => failChar .flagUnrecognized
        match items.find? fun i => i.flag = flag with
        | some i =>
          let kind := if flag.isNone then .flagRepeatedNegation else .flagDuplicate
          throw { kind, span, earlier := some i.span }
        | none =>
          advance
          if ← atEnd then failHere .flagUnexpectedEnd
          flagItems fuel (⟨span, flag⟩ :: items)

def groupHead : Read (Node ⊕ Span × GroupKind) := do
  let start ← offset
  let opening : Span := ⟨start, start + 1⟩
  advance
  blanks
  for word in ["?=", "?!", "?<=", "?<!"] do
    if ← take (text word) then failFrom .unsupportedLookAround start
  let inner ← offset
  if ← take (text "?P<") then
    let index ← nextGroup
    groupName index
    return .inr (opening, .capture index)
  else if ← take (text "?<") then
    let index ← nextGroup
    groupName index
    return .inr (opening, .capture index)
  else if ← take (text "?") then
    if ← atEnd then throw { kind := .groupUnclosed, span := opening }
    let items ← flagItems ((← get).rest.length + 1) []
    let closing ← peek
    advance
    if closing == some ')' then
      if items.isEmpty then failAt .repetitionMissing inner inner
      return .inl (.flags ⟨start, ← offset⟩ items)
    else return .inr (opening, .flags items)
  else
    let index ← nextGroup
    return .inr (opening, .capture index)

def setVerbose (items : List FlagItem) : Read Unit :=
  match flagState items .ignoreBlanks with
  | some on => modify fun c => { c with verbose := on }
  | none => return ()

def repeated (run : PartRun) : Read (Node × List Node) :=
  match run.parts with
  | [] | .empty _ :: _ | .flags _ _ :: _ => failHere .repetitionMissing
  | node :: parts => return (node, parts)

def shortRepetition (run : PartRun) (least : Nat) (greatest : Option Nat) :
    Read PartRun := do
  let (node, parts) ← repeated run
  advance
  let lazily := (← peek) == some '?'
  if lazily then advance
  let span : Span := ⟨node.span.start, ← offset⟩
  return { run with parts := .repetition span least greatest (!lazily) node :: parts }

def plainBlanks : Read Unit :=
  modify fun c =>
    let t := c.rest.dropWhile Text.isBlank
    { c with rest := t, offset := c.offset + (c.rest.length - t.length) }

def decimalDigits : Nat → Text → Read Text
  | 0, acc => return acc.reverse
  | fuel + 1, acc => do
    match ← peek with
    | some c =>
      if c.isDigit then
        advanceBlanks
        decimalDigits fuel (c :: acc)
      else return acc.reverse
    | none => return acc.reverse

def blanksAfter : Nat → Read Unit
  | 0 => return ()
  | fuel + 1 => do
    match ← peek with
    | some c =>
      if Text.isBlank c then
        advanceBlanks
        blanksAfter fuel
    | none => return ()

/-- Reads a count of a repetition between blanks. A fault is handed back, for the reader to
report when it turns out that the count matters. -/
def repetitionCount : Read (Except Fault Nat) := do
  plainBlanks
  let start ← offset
  let fuel := (← get).rest.length + 1
  let digits ← decimalDigits fuel []
  let span : Span := ⟨start, ← offset⟩
  blanksAfter fuel
  if digits.isEmpty then
    return .error { kind := .repetitionCountDecimalEmpty, span }
  else match Text.readNat 4294967295 digits with
    | some n => return .ok n
    | none => return .error { kind := .decimalInvalid, span }

def countedRepetition (run : PartRun) : Read PartRun := do
  let start ← offset
  let (node, parts) ← repeated run
  advanceBlanks
  if ← atEnd then failFrom .repetitionCountUnclosed start
  let first ← repetitionCount
  let (least, greatest) ← match ← peek with
    | none => failFrom .repetitionCountUnclosed start
    | some ',' => do
      advanceBlanks
      match ← peek with
      | none => failFrom .repetitionCountUnclosed start
      | some '}' => do
        let least ← first
        pure (least, none)
      | some _ => do
        let least ← first
        let greatest ← (← repetitionCount)
        pure (least, some greatest)
    | some _ => do
      let count ← first
      pure (count, some count)
  if (← peek) != some '}' then failFrom .repetitionCountUnclosed start
  advanceBlanks
  let lazily := (← peek) == some '?'
  if lazily then advance
  let stop ← offset
  if greatest.any (· < least) then failAt .repetitionCountInvalid start stop
  let span : Span := ⟨node.span.start, stop⟩
  return { run with parts := .repetition span least greatest (!lazily) node :: parts }

def setBranchAside (run : PartRun) (stop : Nat) : List Frame → List Frame
  | .branches start bs :: stack => .branches start (run.toNode stop :: bs) :: stack
  | stack => .branches run.start [run.toNode stop] :: stack

def closeBranches (run : PartRun) (stop : Nat) : List Frame → Node × List Frame
  | .branches start bs :: stack =>
    (.alternation ⟨start, stop⟩ (bs.reverse ++ [run.toNode stop]), stack)
  | stack => (run.toNode stop, stack)

def patternLoop : Nat → List Frame → PartRun → Read Node
  | 0, _, run => return run.toNode (← offset)
  | fuel + 1, stack, run => do
    blanks
    let here ← offset
    match ← peek with
    | none =>
      let (node, stack) := closeBranches run here stack
      match stack with
      | .group _ span _ _ :: _ => throw { kind := .groupUnclosed, span }
      | _ => return node
    | some '(' =>
      match ← groupHead with
      | .inl (.flags span items) =>
        setVerbose items
        patternLoop fuel stack { run with parts := .flags span items :: run.parts }
      | .inl node => patternLoop fuel stack { run with parts := node :: run.parts }
      | .inr (span, kind) =>
        let verbose := (← get).verbose
        match kind with
        | .flags items => setVerbose items
        | .capture _ => pure ()
        patternLoop fuel (.group run span kind verbose :: stack) { start := ← offset }
    | some ')' =>
      let (node, stack) := closeBranches run here stack
      match stack with
      | .group outer span kind verbose :: stack =>
        modify fun c => { c with verbose }
        advance
        let group := .group ⟨span.start, ← offset⟩ kind node
        patternLoop fuel stack { outer with parts := group :: outer.parts }
      | _ => failChar .groupUnopened
    | some '|' =>
      let stack := setBranchAside run here stack
      advance
      patternLoop fuel stack { start := ← offset }
    | some '[' =>
      let node ← bracketed
      patternLoop fuel stack { run with parts := node :: run.parts }
    | some '?' => patternLoop fuel stack (← shortRepetition run 0 (some 1))
    | some '*' => patternLoop fuel stack (← shortRepetition run 0 none)
    | some '+' => patternLoop fuel stack (← shortRepetition run 1 none)
    | some '{' => patternLoop fuel stack (← countedRepetition run)
    | some c =>
      let part ← primitive c
      patternLoop fuel stack { run with parts := part.toNode :: run.parts }

end Read

def ClassNode.checkDepth (depth : Nat) : ClassNode → Except Fault Unit
  | .bracketed span _ set => do
    if depth ≥ nestLimit then throw { kind := .nestLimitExceeded, span }
    set.checkDepth (depth + 1)
  | .union span items => do
    if depth ≥ nestLimit then throw { kind := .nestLimitExceeded, span }
    checkAll (depth + 1) items
  | .combine span _ left right => do
    if depth ≥ nestLimit then throw { kind := .nestLimitExceeded, span }
    left.checkDepth (depth + 1)
    right.checkDepth (depth + 1)
  | _ => return ()
where
  checkAll (depth : Nat) : List ClassNode → Except Fault Unit
    | [] => return ()
    | item :: items => do
      item.checkDepth depth
      checkAll depth items

def Node.checkDepth (depth : Nat) : Node → Except Fault Unit
  | .bracketed span _ set => do
    if depth ≥ nestLimit then throw { kind := .nestLimitExceeded, span }
    set.checkDepth (depth + 1)
  | .repetition span _ _ _ node | .group span _ node => do
    if depth ≥ nestLimit then throw { kind := .nestLimitExceeded, span }
    node.checkDepth (depth + 1)
  | .alternation span nodes | .concat span nodes => do
    if depth ≥ nestLimit then throw { kind := .nestLimitExceeded, span }
    checkAll (depth + 1) nodes
  | _ => return ()
where
  checkAll (depth : Nat) : List Node → Except Fault Unit
    | [] => return ()
    | node :: nodes => do
      node.checkDepth depth
      checkAll depth nodes

def read (pattern : Text) : Except Fault Parsed := do
  let (root, cursor) ← (Read.patternLoop (pattern.length + 1) [] { start := 0 }).run
    { rest := pattern }
  root.checkDepth 0
  return { root, groups := cursor.groups,
           names := cursor.names.map fun (name, index, _) => (name, index) }

end CrsExport.Pattern
