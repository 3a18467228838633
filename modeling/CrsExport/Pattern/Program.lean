import CrsExport.Pattern.Meaning
/-! Programs that match a pattern: instructions that read one character, check a place,
note a place or go on at one of several instructions, the earlier ones preferred. -/

namespace CrsExport.Pattern

open Unicode (CodePointSet)

inductive Instruction where
  | read (set : CodePointSet) (next : Nat)
  | check (look : Look) (next : Nat)
  | note (slot : Nat) (next : Nat)
  | fork (targets : List Nat)
  | accept
  deriving Inhabited

namespace Instruction

def branching : Instruction → Nat
  | read _ _ | accept => 0
  | check _ _ | note _ _ => 1
  | fork targets => targets.length

end Instruction

structure Program where
  code : Array Instruction
  start : Nat
  slots : Nat
  branching : Nat

namespace Program

abbrev Build := StateM (Array Instruction)

def add (i : Instruction) : Build Nat := modifyGet fun code => (code.size, code.push i)

def change (n : Nat) (i : Instruction) : Build Unit := modify fun code => code.setIfInBounds n i

def ways (greedy : Bool) (again onward : Nat) : List Nat :=
  if greedy then [again, onward] else [onward, again]

def addLiteral (next : Nat) : Text → Build Nat
  | [] => return next
  | c :: cs => do
    let rest ← addLiteral next cs
    add (.read (.ofChar c) rest)

def addCopies (body : Nat → Build Nat) (next : Nat) : Nat → Build Nat
  | 0 => return next
  | n + 1 => do
    let rest ← addCopies body next n
    body rest

def addOptional (body : Nat → Build Nat) (greedy : Bool) (next : Nat) : Nat → Build Nat
  | 0 => return next
  | n + 1 => do
    let rest ← addOptional body greedy next n
    let first ← body rest
    add (.fork (ways greedy first next))

def addAgain (body : Nat → Build Nat) (greedy : Bool) (next : Nat) : Build Nat := do
  let fork ← add (.fork [])
  let first ← body fork
  change fork (.fork (ways greedy first next))
  return first

/-- Adds the instructions of an expression, which go on at `next`. A repetition without
bounds whose body can be empty is an optional one that occurs at least once, which keeps
the order of preference. -/
def addExpr (next : Nat) : Expr → Build Nat
  | .empty => return next
  | .literal cs => addLiteral next cs
  | .chars set => add (.read set next)
  | .look l => add (.check l next)
  | .capture index body => do
    let close ← add (.note (2 * index + 1) next)
    let first ← addExpr close body
    add (.note (2 * index) first)
  | .repetition least greatest greedy body => do
    let one := fun next => addExpr next body
    match greatest with
    | some n =>
      let rest ← addOptional one greedy next (n - least)
      addCopies one rest least
    | none =>
      match least with
      | 0 =>
        if body.neverEmpty then
          let fork ← add (.fork [])
          let first ← one fork
          change fork (.fork (ways greedy first next))
          return fork
        else
          let first ← addAgain one greedy next
          add (.fork (ways greedy first next))
      | n + 1 =>
        let rest ← addAgain one greedy next
        addCopies one rest n
  | .concat parts => addAll next parts
  | .choice branches => do
    let targets ← addEach next branches
    add (.fork targets)
where
  addAll (next : Nat) : List Expr → Build Nat
    | [] => return next
    | e :: es => do
      let rest ← addAll next es
      addExpr rest e
  addEach (next : Nat) : List Expr → Build (List Nat)
    | [] => return []
    | e :: es => do
      let first ← addExpr next e
      return first :: (← addEach next es)

def sizeOf : Expr → Nat
  | .empty => 0
  | .literal cs => cs.length
  | .chars _ | .look _ => 1
  | .capture _ body => sizeOf body + 2
  | .repetition least greatest _ body =>
    match greatest with
    | some n => least * sizeOf body + (n - least) * (sizeOf body + 1)
    | none => max 1 least * sizeOf body + 1
  | .concat parts => sizeOfAll parts
  | .choice branches => sizeOfAll branches + 1
where
  sizeOfAll : List Expr → Nat
    | [] => 0
    | e :: es => sizeOf e + sizeOfAll es

def instructionBytes : Nat := 32

def isTooLarge (e : Expr) : Bool := sizeLimit < instructionBytes * sizeOf e

def ofExpr (groups : Nat) (e : Expr) : Program :=
  let build : Build Nat := do
    let accept ← add .accept
    addExpr accept (.capture 0 e)
  let (start, code) := build.run #[]
  { code, start, slots := 2 * (groups + 1)
    branching := code.foldl (fun n i => n + i.branching) 0 }

end Program
end CrsExport.Pattern
