import CrsExport.Environment.Assignment
import CrsExport.Text.Utf8
/-! Environment files: assignments line by line. Quotes and a backslash keep a line going
over its end. The first line that cannot be read ends the reading; the variables that were
set before stay. -/

namespace CrsExport.Environment

inductive LinePlace where
  | plain
  | blank
  | escape
  | single
  | singleEscape
  | double
  | doubleEscape
  deriving DecidableEq, Repr

def LinePlace.enter (c : Char) : LinePlace :=
  if c = '\\' then .escape else if c = '"' then .double
  else if c = '\'' then .single else .plain

def LinePlace.next (c : Char) : LinePlace → Option LinePlace
  | .plain =>
    if Text.isBlank c ∧ c ≠ '\n' ∧ c ≠ '\r' then some .blank else some (.enter c)
  | .blank => if c = '#' then none else some (.enter c)
  | .escape => some .plain
  | .single =>
    some (if c = '\\' then .singleEscape else if c = '\'' then .plain else .single)
  | .singleEscape => some .single
  | .double =>
    some (if c = '\\' then .doubleEscape else if c = '"' then .plain else .double)
  | .doubleEscape => some .double

def scanLine (place : LinePlace) : Text → Text × Option LinePlace
  | [] => ([], some place)
  | c :: rest =>
    match place.next c with
    | none => ([], none)
    | some next =>
      let (kept, place) := scanLine next rest
      (c :: kept, place)

def dropLineEnd (line : Text) : Text :=
  if line.getLast? = some '\n' then
    if line.dropLast.getLast? = some '\r' then line.dropLast.dropLast else line.dropLast
  else line

/-- The lines of a file put together where quotes or a backslash keep them going. A line
that is not text, and an end of the file inside of a line, cannot be read. -/
def joinLines (sofar : Text) (place : LinePlace) : List (Option Text) → List (Option Text)
  | [] => if place = .plain then [] else [none]
  | none :: _ => [none]
  | some line :: rest =>
    let whole := sofar ++ line
    if (Text.trimStart whole).head? = some '#' then joinLines [] .plain rest
    else
      match scanLine place line with
      | (kept, none) => some (sofar ++ kept) :: joinLines [] .plain rest
      | (_, some .plain) => some (dropLineEnd whole) :: joinLines [] .plain rest
      | (_, some place) => joinLines whole place rest

def splitLines (bytes : List UInt8) : List (List UInt8) :=
  bytes.foldr (fun b pieces =>
    if b = 10 then [b] :: pieces
    else match pieces with
      | [] => [[b]]
      | piece :: rest => (b :: piece) :: rest) []

def dropMark (bytes : List UInt8) : List UInt8 :=
  if [0xEF, 0xBB, 0xBF].isPrefixOf bytes then bytes.drop 3 else bytes

def setAll (env : Environment) : List (Option Text) → Environment
  | [] | none :: _ => env
  | some line :: rest =>
    match readLine env line with
    | .nothing => setAll env rest
    | .assignment name value => setAll (env.setNew name value) rest
    | .bad => env

def load (env : Environment) (file : List UInt8) : Environment :=
  setAll env (joinLines [] .plain ((splitLines (dropMark file)).map Text.ofUtf8?))

def mentions (file : List UInt8) : List Text :=
  ((splitLines file).filterMap Text.ofUtf8?).flatMap fun line =>
    ((Text.splitWhen (· == '$') line).drop 1).map fun
      | '\x7b' :: rest => rest.takeWhile (· != '\x7d')
      | rest => rest.takeWhile Unicode.lettersAndNumbers.hasChar

end CrsExport.Environment
