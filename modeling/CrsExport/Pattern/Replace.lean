import CrsExport.Pattern.Match
/-! Replacing the matches of a pattern. A replacement text names groups of the match after
a dollar sign. -/

namespace CrsExport.Pattern

inductive Piece where
  | plain (chars : Text)
  | group (index : Nat)
  | named (name : Text)
  deriving DecidableEq, Repr

def greatestIndex : Nat := 18446744073709551615

def Piece.ofName (name : Text) : Piece :=
  match Text.readNat greatestIndex name with
  | some n => .group n
  | none => .named name

def isNameLetter (c : Char) : Bool := c.isAlphanum || c == '_'

def pieces : Nat → Text → List Piece
  | 0, t => [.plain t]
  | fuel + 1, t =>
    match t with
    | [] => []
    | '$' :: '$' :: rest => .plain ['$'] :: pieces fuel rest
    | '$' :: '{' :: rest =>
      match Text.splitFirst '}' rest with
      | some (name, after) => .ofName name :: pieces fuel after
      | none => .plain ['$'] :: pieces fuel ('{' :: rest)
    | '$' :: rest =>
      let name := rest.takeWhile isNameLetter
      if name.isEmpty then .plain ['$'] :: pieces fuel rest
      else .ofName name :: pieces fuel (rest.drop name.length)
    | t =>
      let plain := t.takeWhile (· != '$')
      .plain plain :: pieces fuel (t.drop plain.length)

def template (t : Text) : List Piece := pieces (t.length + 1) t

namespace Compiled

def between (cs : Array Char) (start stop : Nat) : Text := (cs.extract start stop).toList

def groupText (cs : Array Char) (slots : Slots) (index : Nat) : Text :=
  match noted slots (2 * index), noted slots (2 * index + 1) with
  | some a, some b => between cs a b
  | _, _ => []

def expand (p : Compiled) (cs : Array Char) (slots : Slots) : Piece → Text
  | .plain t => t
  | .group n => groupText cs slots n
  | .named name =>
    match p.names.lookup name with
    | some n => groupText cs slots n
    | none => []

def splice (p : Compiled) (cs : Array Char) (replacement : List Piece) (place : Nat) :
    List Slots → List Text
  | [] => [between cs place cs.size]
  | slots :: rest =>
    let start := (noted slots 0).getD place
    let stop := (noted slots 1).getD place
    between cs place start :: (replacement.flatMap (p.expand cs slots)) ::
      p.splice cs replacement stop rest

def replaceAll (p : Compiled) (replacement : Text) (t : Text) : Text :=
  let cs := t.toArray
  (p.splice cs (template replacement) 0 (p.allMatches cs)).flatten

end Compiled
end CrsExport.Pattern
