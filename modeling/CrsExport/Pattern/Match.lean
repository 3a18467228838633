import CrsExport.Pattern.Program
/-! Matching. All ways through a program are followed side by side, character by character,
in the order of preference; a way that comes to an instruction where a preferred one has
been at the same place is dropped. So the time is bounded by the length of the text times
the size of the program. -/

namespace CrsExport.Pattern

abbrev Slots := Array (Option Nat)

namespace Look

def isWord (unicode : Bool) (cs : Array Char) (i : Nat) : Bool :=
  match cs[i]? with
  | none => false
  | some c => (ShorthandClass.word.set unicode).hasChar c

def holds (cs : Array Char) (place : Nat) (l : Look) : Bool :=
  let before := if place = 0 then none else cs[place - 1]?
  let after := cs[place]?
  let wordBefore (u : Bool) := place != 0 && isWord u cs (place - 1)
  let wordAfter (u : Bool) := isWord u cs place
  match l with
  | start => place = 0
  | stop => place = cs.size
  | startLine => before.all (· == '\n')
  | endLine => after.all (· == '\n')
  | startLineReturns =>
    before.all fun c => c == '\n' || (c == '\r' && after != some '\n')
  | endLineReturns =>
    after.all fun c => c == '\r' || (c == '\n' && before != some '\r')
  | word u => wordBefore u != wordAfter u
  | notWord u => wordBefore u == wordAfter u
  | wordStart u => !wordBefore u && wordAfter u
  | wordEnd u => wordBefore u && !wordAfter u
  | wordStartHalf u => !wordBefore u
  | wordEndHalf u => !wordAfter u

end Look

structure Ways where
  reached : Array Bool
  waiting : Array (Nat × Slots)

namespace Program

def noWays (p : Program) : Ways := ⟨Array.replicate p.code.size false, #[]⟩

/-- Follows ways up to the instructions that read or accept. Each turn takes one way off
the stack; an instruction adds its ways on only once, so `fuel` need not be more than the
number of all ways on and one more. -/
def follow (p : Program) (cs : Array Char) (place : Nat) :
    Nat → List (Nat × Slots) → Ways → Ways
  | 0, _, ways => ways
  | _ + 1, [], ways => ways
  | fuel + 1, (n, slots) :: stack, ways =>
    if ways.reached.getD n true then p.follow cs place fuel stack ways
    else
      let ways := { ways with reached := ways.reached.setIfInBounds n true }
      match p.code.getD n .accept with
      | .read _ _ | .accept =>
        p.follow cs place fuel stack { ways with waiting := ways.waiting.push (n, slots) }
      | .check look next =>
        if look.holds cs place then p.follow cs place fuel ((next, slots) :: stack) ways
        else p.follow cs place fuel stack ways
      | .note slot next =>
        p.follow cs place fuel ((next, slots.setIfInBounds slot (some place)) :: stack) ways
      | .fork targets =>
        p.follow cs place fuel (targets.map (·, slots) ++ stack) ways

def followOne (p : Program) (cs : Array Char) (place n : Nat) (slots : Slots)
    (ways : Ways) : Ways :=
  p.follow cs place (p.branching + 2) [(n, slots)] ways

def step (p : Program) (cs : Array Char) (place : Nat) :
    List (Nat × Slots) → Ways → Option Slots × Ways
  | [], next => (none, next)
  | (n, slots) :: rest, next =>
    match p.code.getD n .accept with
    | .accept => (some slots, next)
    | .read set target =>
      match cs[place]? with
      | some c =>
        if set.hasChar c then
          p.step cs place rest (p.followOne cs (place + 1) target slots next)
        else p.step cs place rest next
      | none => p.step cs place rest next
    | _ => p.step cs place rest next

def searchFrom (p : Program) (cs : Array Char) :
    Nat → Nat → Option Slots → Ways → Option Slots
  | 0, _, found, _ => found
  | fuel + 1, place, found, ways =>
    if found.isSome && ways.waiting.isEmpty then found
    else
      let ways := if found.isSome then ways
        else p.followOne cs place p.start (Array.replicate p.slots none) ways
      let (accepted, next) := p.step cs place ways.waiting.toList p.noWays
      p.searchFrom cs fuel (place + 1) (accepted <|> found) next

def search (p : Program) (cs : Array Char) (place : Nat) : Option Slots :=
  p.searchFrom cs (cs.size + 1 - place) place none p.noWays

end Program

structure Compiled where
  program : Program
  names : List (Text × Nat)

def compile (pattern : Text) : Except Fault Compiled := do
  let parsed ← read pattern
  let e ← parsed.meaning
  if Program.isTooLarge e then throw { kind := .tooLarge, span := ⟨0, 0⟩ }
  return { program := .ofExpr parsed.groups e, names := parsed.names }

namespace Compiled

def isMatch (p : Compiled) (t : Text) : Bool := (p.program.search t.toArray 0).isSome

def noted (slots : Slots) (n : Nat) : Option Nat := (slots[n]?).join

/-- The matches from `place` on, which do not overlap. An empty match at the end of the one
before it does not count; the search goes on one character later. -/
def matchesFrom (p : Compiled) (cs : Array Char) :
    Nat → Nat → Option Nat → List Slots
  | 0, _, _ => []
  | fuel + 1, place, lastStop =>
    match p.program.search cs place with
    | none => []
    | some slots =>
      let start := (noted slots 0).getD place
      let stop := (noted slots 1).getD place
      if start = stop ∧ lastStop = some stop then
        if place < cs.size then p.matchesFrom cs fuel (place + 1) none else []
      else slots :: p.matchesFrom cs fuel stop (some stop)

def allMatches (p : Compiled) (cs : Array Char) : List Slots :=
  p.matchesFrom cs (2 * cs.size + 2) 0 none

end Compiled
end CrsExport.Pattern
