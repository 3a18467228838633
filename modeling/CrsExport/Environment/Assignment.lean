import CrsExport.Environment.Basic
import CrsExport.Unicode.Character
/-! Assignments: a line that gives a variable a value. Values may be quoted, may escape
characters, and may name other variables. -/

namespace CrsExport.Environment

inductive ValuePlace where
  | open (quoted : Bool)
  | escape (quoted : Bool)
  | literal
  | name (quoted : Bool) (sofar : Text)
  | braced (quoted : Bool) (sofar : Text)
  | ended
  deriving DecidableEq, Repr

def unescape (c : Char) : Option Char :=
  if c = '\\' ∨ c = '\'' ∨ c = '"' ∨ c = '$' ∨ c = ' ' then some c
  else if c = 'n' then some '\n'
  else none

def substitute (env : Environment) (name : Text) : Text := (env.get? name).getD []

def readValue (env : Environment) : ValuePlace → Text → Option Text
  | .open quoted, [] | .escape quoted, [] => if quoted then none else some []
  | .name quoted sofar, [] => if quoted then none else some (substitute env sofar)
  | .literal, [] | .braced .., [] => none
  | .ended, [] => some []
  | .ended, c :: rest =>
    if c = ' ' ∨ c = '\t' then readValue env .ended rest
    else if c = '#' then some []
    else none
  | .escape quoted, c :: rest =>
    match unescape c with
    | none => none
    | some d => (readValue env (.open quoted) rest).map (d :: ·)
  | .literal, c :: rest =>
    if c = '\'' then readValue env (.open false) rest
    else (readValue env .literal rest).map (c :: ·)
  | .name quoted sofar, c :: rest =>
    if Unicode.lettersAndNumbers.hasChar c then
      readValue env (.name quoted (sofar ++ [c])) rest
    else if c = '\x7b' ∧ sofar = [] then readValue env (.braced quoted []) rest
    else if c = '$' then
      (readValue env (.name quoted []) rest).map (substitute env sofar ++ ·)
    else (readValue env (.open quoted) rest).map (substitute env sofar ++ c :: ·)
  | .braced quoted sofar, c :: rest =>
    if c = '\x7d' then (readValue env (.open quoted) rest).map (substitute env sofar ++ ·)
    else readValue env (.braced quoted (sofar ++ [c])) rest
  | .open quoted, c :: rest =>
    if c = '$' then readValue env (.name quoted []) rest
    else if c = '\\' then readValue env (.escape quoted) rest
    else if c = '"' then readValue env (.open (!quoted)) rest
    else if quoted then (readValue env (.open true) rest).map (c :: ·)
    else if c = '\'' then readValue env .literal rest
    else if c = ' ' ∨ c = '\t' then readValue env .ended rest
    else (readValue env (.open false) rest).map (c :: ·)

def beginsName (c : Char) : Bool := c.isAlpha || c == '_'

def continuesName (c : Char) : Bool := c.isAlphanum || c == '_' || c == '.'

def readName (t : Text) : Option (Text × Text) :=
  match t with
  | c :: _ =>
    if beginsName c then
      some (t.takeWhile continuesName, Text.trimStart (t.dropWhile continuesName))
    else none
  | [] => none

def exportWord : Text := text "export"

def afterEquals : Text → Option Text
  | '=' :: rest => some (Text.trimStart rest)
  | _ => none

def splitAssignment (line : Text) : Option (Text × Text) :=
  match readName line with
  | none => none
  | some (name, rest) =>
    match afterEquals rest with
    | some value => some (name, value)
    | none =>
      if name = exportWord then
        match readName rest with
        | none => none
        | some (name, rest) => (afterEquals rest).map (name, ·)
      else none

inductive Line where
  | nothing
  | assignment (name value : Text)
  | bad
  deriving DecidableEq, Repr

def isRemark (t : Text) : Bool := t.isEmpty || t.head? == some '#'

def readLine (env : Environment) (line : Text) : Line :=
  let content := Text.trim line
  if isRemark content then .nothing
  else
    match splitAssignment content with
    | none => .bad
    | some (name, value) =>
      if isRemark value then .assignment name []
      else
        match readValue env (.open false) value with
        | none => .bad
        | some v => .assignment name v

end CrsExport.Environment
