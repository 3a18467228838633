import CrsExport.Rules.Scanner
import CrsExport.Rules.Basic
/-! Rules documents. A document is an object with the fields of the rules, or an array of
them in the order in which they are declared; substitutions are written in either way too. Fields
that are not known are passed over. -/

namespace CrsExport.Rules
namespace Read

inductive Bracket where
  | list
  | object
  deriving DecidableEq, Repr

def Bracket.closing : Bracket → UInt8
  | list => 0x5D
  | object => 0x7D

def passKey : Read Unit := do
  match ← peekPastBlanks with
  | none => fail .endInObject
  | some b => if b == 0x22 then advance else failNext .keyMustBeString
  passString ((← get).rest.length + 1)
  match ← peekPastBlanks with
  | none => fail .endInObject
  | some b => if b == 0x3A then advance else failNext .expectedColon

def passClosings (first : Bool) : List Bracket → Read (List Bracket)
  | [] => return []
  | bracket :: outer => do
    match ← peekPastBlanks with
    | none => failNext (match bracket with
      | .list => .endInList
      | .object => .endInObject)
    | some b =>
      if b == 0x2C && !first then
        advance
        return bracket :: outer
      else if b == bracket.closing then
        advance
        passClosings false outer
      else if first then return bracket :: outer
      else failNext (match bracket with
        | .list => .expectedListCommaOrEnd
        | .object => .expectedObjectCommaOrEnd)

def passValueIn : Nat → List Bracket → Read Unit
  | 0, _ => return ()
  | fuel + 1, brackets => do
    let opened : Option Bracket ← match ← peekPastBlanks with
      | none => failNext .endInValue
      | some b => do
        let c := Char.ofNat b.toNat
        if c == 'n' then advance; word (text "ull"); pure none
        else if c == 't' then advance; word (text "rue"); pure none
        else if c == 'f' then advance; word (text "alse"); pure none
        else if c == '-' then advance; passNumber; pure none
        else if isDigit b then passNumber; pure none
        else if c == '"' then advance; passString ((← get).rest.length + 1); pure none
        else if c == '[' then advance; pure (some .list)
        else if c == '{' then advance; pure (some .object)
        else failNext .expectedValue
    let brackets ← passClosings opened.isSome (opened.toList ++ brackets)
    match brackets with
    | [] => return ()
    | .list :: _ => passValueIn fuel brackets
    | .object :: _ =>
      passKey
      passValueIn fuel brackets

def passValue : Read Unit := do passValueIn ((← get).rest.length + 1) []

/-- Fails because the value here is not of the expected kind. The place is after a value of
one piece, and before the bracket of any other. -/
def failType {α : Type} (expected : String) : Read α := do
  let found : Found ← match ← peek with
    | none => failNext .expectedValue
    | some b => do
      let c := Char.ofNat b.toNat
      if c == 'n' then advance; word (text "ull"); pure .null
      else if c == 't' then advance; word (text "rue"); pure (.boolean true)
      else if c == 'f' then advance; word (text "alse"); pure (.boolean false)
      else if c == '-' then advance; number false
      else if isDigit b then number true
      else if c == '"' then
        advance
        let s ← string
        pure (.string s)
      else if c == '[' then pure .sequence
      else if c == '{' then pure .map
      else failNext .expectedValue
  fail (.invalidType found expected)

def readText : Read Text := do
  match ← peekPastBlanks with
  | none => failNext .endInValue
  | some b =>
    if b == 0x22 then
      advance
      string
    else failType "a string"

def moreElements (first : Bool) : Read Bool := do
  match ← peekPastBlanks with
  | none => failNext .endInList
  | some b =>
    if b == 0x5D then return false
    else if first then return true
    else if b == 0x2C then
      advance
      match ← peekPastBlanks with
      | none => failNext .endInValue
      | some b => if b == 0x5D then failNext .trailingComma else return true
    else failNext .expectedListCommaOrEnd

def moreKeys (first : Bool) : Read Bool := do
  match ← peekPastBlanks with
  | none => failNext .endInObject
  | some b =>
    if b == 0x7D then return false
    else if first then
      if b == 0x22 then return true else failNext .keyMustBeString
    else if b == 0x2C then
      advance
      match ← peekPastBlanks with
      | none => failNext .endInValue
      | some b =>
        if b == 0x22 then return true
        else if b == 0x7D then failNext .trailingComma
        else failNext .keyMustBeString
    else failNext .expectedObjectCommaOrEnd

def closeList : Read Unit := do
  match ← peekPastBlanks with
  | none => failNext .endInList
  | some b =>
    if b == 0x5D then advance
    else if b == 0x2C then
      advance
      if (← peekPastBlanks) == some 0x5D then failNext .trailingComma
      else failNext .trailingCharacters
    else failNext .trailingCharacters

def passBrace : Read Unit := do
  if (← peekPastBlanks) == some 0x7D then advance

def elements {α : Type} (element : Read α) (first : Bool) : Nat → List α → Read (List α)
  | 0, acc => return acc.reverse
  | fuel + 1, acc => do
    if ← moreElements first then
      let a ← element
      elements element false fuel (a :: acc)
    else
      advance
      return acc.reverse

def readList {α : Type} (element : Read α) : Read (List α) := do
  match ← peekPastBlanks with
  | none => failNext .endInValue
  | some b =>
    if b == 0x5B then
      advance
      elements element true ((← get).rest.length + 1) []
    else failType "a sequence"

structure Field (ρ : Type) where
  name : String
  optional : Bool
  read : ρ → Read ρ

def fieldsOfList {ρ : Type} (all : Nat) (expected : String) (count : Nat) (r : ρ) :
    List (Field ρ) → Read ρ
  | [] => do
    closeList
    return r
  | f :: fs => do
    if ← moreElements (count = 0) then
      let r ← f.read r
      fieldsOfList all expected (count + 1) r fs
    else if (f :: fs).all (·.optional) then
      advance
      return r
    else
      advance
      fail (.invalidLength count (expected ++ " with " ++ toString all ++ " elements"))

def fieldsOfObject {ρ : Type} (fields : List (Field ρ)) :
    Nat → List String → Bool → ρ → Read ρ
  | 0, _, _, r => return r
  | fuel + 1, seen, first, r => do
    if ← moreKeys first then
      advance
      let key ← string
      match fields.find? fun f => text f.name == key with
      | some f =>
        if seen.contains f.name then
          passBrace
          fail (.duplicateField f.name)
        colon
        let r ← f.read r
        fieldsOfObject fields fuel (f.name :: seen) false r
      | none =>
        colon
        passValue
        fieldsOfObject fields fuel seen false r
    else
      advance
      match fields.find? fun f => !f.optional && !seen.contains f.name with
      | some f => fail (.missingField f.name)
      | none => return r
where
  colon : Read Unit := do
    match ← peekPastBlanks with
    | none => failNext .endInObject
    | some b => if b == 0x3A then advance else failNext .expectedColon

def readRecord {ρ : Type} (expected : String) (fields : List (Field ρ)) (r : ρ) :
    Read ρ := do
  match ← peekPastBlanks with
  | none => failNext .endInValue
  | some b =>
    if b == 0x5B then
      advance
      fieldsOfList fields.length expected 0 r fields
    else if b == 0x7B then
      advance
      fieldsOfObject fields ((← get).rest.length + 1) [] true r
    else failType expected

def substitutionRule : Read SubstitutionRule :=
  readRecord "struct RewriteRule"
    [⟨"regex", false, fun r => do return { r with pattern := ← readText }⟩,
     ⟨"replacement", false, fun r => do return { r with replacement := ← readText }⟩]
    ⟨[], []⟩

def codeSubstitutionRule : Read CodeSubstitutionRule :=
  readRecord "struct CodeRewriteRule"
    [⟨"regex", false, fun r => do return { r with pattern := ← readText }⟩,
     ⟨"replacement", false, fun r => do return { r with replacement := ← readText }⟩,
     ⟨"codes", false, fun r => do return { r with codes := ← readText }⟩]
    ⟨[], [], []⟩

def rules : Read RefinementRules :=
  readRecord "struct RefinementRules"
    [⟨"order", true, fun r => do return { r with order := ← readList readText }⟩,
     ⟨"global_additions", true, fun r => do return { r with additions := ← readText }⟩,
     ⟨"unit_refinements", true, fun r => do
        return { r with unitRules := ← readList substitutionRule }⟩,
     ⟨"code_refinements", true, fun r => do
        return { r with codeRules := ← readList codeSubstitutionRule }⟩]
    {}

def document : Read RefinementRules := do
  let r ← rules
  match ← peekPastBlanks with
  | none => return r
  | some _ => failNext .trailingCharacters

end Read

def Stop.toFault (bytes : List UInt8) (s : Stop) : Fault :=
  let before := bytes.take s.offset
  { kind := s.kind, line := 1 + before.count 0x0A
    column := (before.reverse.takeWhile (· != 0x0A)).length }

def parse (document : Text) : Except Fault RefinementRules :=
  let bytes := Text.utf8 document
  match Read.document.run { rest := bytes } with
  | .ok (r, _) => .ok r
  | .error s => .error (s.toFault bytes)

end CrsExport.Rules
