import CrsExport.Unicode.CodePointSet
/-! What a pattern means, freed of its spelling: sets of characters and conditions on
places, put together by sequence, choice, repetition and capture. The functions that build
an expression bring it into a simple form; the form decides the order in which matches are
preferred. -/

namespace CrsExport.Pattern

open Unicode (CodePointSet)

inductive Look where
  | start
  | stop
  | startLine
  | endLine
  | startLineReturns
  | endLineReturns
  | word (unicode : Bool)
  | notWord (unicode : Bool)
  | wordStart (unicode : Bool)
  | wordEnd (unicode : Bool)
  | wordStartHalf (unicode : Bool)
  | wordEndHalf (unicode : Bool)
  deriving DecidableEq, Repr

inductive Expr where
  | empty
  | literal (chars : Text)
  | chars (set : CodePointSet)
  | look (look : Look)
  | repetition (least : Nat) (greatest : Option Nat) (greedy : Bool) (body : Expr)
  | capture (index : Nat) (body : Expr)
  | concat (parts : List Expr)
  | choice (branches : List Expr)
  deriving BEq, Repr, Inhabited

namespace Expr

def onlyEmpty : Expr → Bool
  | empty | look _ => true
  | literal cs => cs.isEmpty
  | chars _ => false
  | repetition _ greatest _ body => greatest == some 0 || (greatest.isSome && body.onlyEmpty)
  | capture _ body => body.onlyEmpty
  | concat parts => allOnlyEmpty parts
  | choice branches => allOnlyEmpty branches
where
  allOnlyEmpty : List Expr → Bool
    | [] => true
    | e :: es => e.onlyEmpty && allOnlyEmpty es

def neverEmpty : Expr → Bool
  | empty | look _ => false
  | literal cs => !cs.isEmpty
  | chars set => !set.isEmpty
  | repetition least _ _ body => least != 0 && body.neverEmpty
  | capture _ body => body.neverEmpty
  | concat parts => someNeverEmpty parts
  | choice branches => allNeverEmpty branches
where
  someNeverEmpty : List Expr → Bool
    | [] => false
    | e :: es => e.neverEmpty || someNeverEmpty es
  allNeverEmpty : List Expr → Bool
    | [] => true
    | e :: es => e.neverEmpty && allNeverEmpty es

def ofSet (s : CodePointSet) : Expr :=
  match s.single? with
  | some c => literal [c]
  | none => chars s

def ofRepetition (least : Nat) (greatest : Option Nat) (greedy : Bool) (body : Expr) :
    Expr :=
  let (least, greatest) :=
    if body.onlyEmpty then (min least 1, some (min (greatest.getD 1) 1))
    else (least, greatest)
  if greatest = some 0 then empty
  else if least = 1 ∧ greatest = some 1 then body
  else repetition least greatest greedy body

def flatten (parts : List Expr) : List Expr :=
  parts.flatMap fun
    | concat inner => inner
    | empty => []
    | e => [e]

def joinLiterals : List Expr → List Expr
  | [] => []
  | literal a :: rest =>
    match joinLiterals rest with
    | literal b :: more => literal (a ++ b) :: more
    | more => literal a :: more
  | e :: rest => e :: joinLiterals rest

def ofConcat (parts : List Expr) : Expr :=
  match joinLiterals (flatten parts) with
  | [] => empty
  | [e] => e
  | parts => concat parts

def charSet? : Expr → Option CodePointSet
  | literal [c] => some (.ofChar c)
  | chars s => some s
  | _ => none

def commonLength : List Expr → List Expr → Nat
  | a :: as, b :: bs => if a == b then commonLength as bs + 1 else 0
  | _, _ => 0

def sharedLength : List Expr → Nat
  | concat first :: rest =>
    rest.foldl (fun n e => match e with
      | concat parts => min n (commonLength first parts)
      | _ => 0) first.length
  | _ => 0

def parts : Expr → List Expr
  | concat ps => ps
  | empty => []
  | e => [e]

/-- A choice. Nested choices are opened, branches of single characters become one set, and
the parts that all branches begin with are written once; `fuel` bounds the nesting of
these. -/
def ofChoice (fuel : Nat) (branches : List Expr) : Expr :=
  let branches := branches.flatMap fun
    | choice inner => inner
    | e => [e]
  match branches with
  | [] => chars .empty
  | [e] => e
  | first :: _ =>
    match branches.mapM charSet? with
    | some sets => ofSet (.unions sets)
    | none =>
      match fuel, sharedLength branches with
      | 0, _ | _, 0 => choice branches
      | fuel + 1, n =>
        ofConcat (first.parts.take n ++
          [ofChoice fuel (branches.map fun b => ofConcat (b.parts.drop n))])

end Expr
end CrsExport.Pattern
