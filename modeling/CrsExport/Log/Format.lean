import CrsExport.Log.Record
import CrsExport.Terminal.Paint
/-! How log records are written: plain lines for people, and lines that are JSON objects for
programs. -/

namespace CrsExport.Log

inductive Format where
  | plain
  | json
  deriving DecidableEq, Repr

namespace Format

def label : Format → String
  | plain => "plain"
  | json => "json"

end Format

def hexDigit (n : Nat) : Char :=
  if n < 10 then Char.ofNat ('0'.toNat + n) else Char.ofNat ('a'.toNat + (n - 10))

def escapeChar (c : Char) : Text :=
  if c = '"' then ['\\', '"']
  else if c = '\\' then ['\\', '\\']
  else if c = '\x08' then ['\\', 'b']
  else if c = '\x0C' then ['\\', 'f']
  else if c = '\n' then ['\\', 'n']
  else if c = '\r' then ['\\', 'r']
  else if c = '\t' then ['\\', 't']
  else if c.toNat < 0x20 then
    ['\\', 'u', '0', '0', hexDigit (c.toNat / 16), hexDigit (c.toNat % 16)]
  else [c]

def jsonString (t : Text) : Text := '"' :: t.flatMap escapeChar ++ ['"']

structure Stamp where
  clock : Text
  millis : Nat

def twoDigits (n : Nat) : Text := [Nat.digitChar (n / 10 % 10), Nat.digitChar (n % 10)]

def Stamp.ofMillis (millis : Nat) : Stamp where
  clock :=
    let seconds := millis / 1000
    twoDigits (seconds / 3600 % 24) ++ [':'] ++ twoDigits (seconds / 60 % 60) ++ [':'] ++
      twoDigits (seconds % 60)
  millis

def Level.color : Level → Terminal.Effect
  | error => .red
  | warn => .yellow
  | info => .green
  | debug => .blue
  | trace => .purple

def tint (colors : Bool) (color : Terminal.Effect) (t : Text) : Text :=
  if colors then Terminal.paint [color] t else t

def plainLine (colors : Bool) (stamp : Stamp) (r : Record) : Text :=
  stamp.clock ++ [' '] ++ tint colors .cyan (text r.target.path) ++ text " [" ++
    tint colors r.level.color (text r.level.label) ++ text "] " ++ r.message

def jsonLine (stamp : Stamp) (r : Record) : Text :=
  text "\x7b\"ts\":" ++ Text.ofNat stamp.millis ++ text ",\"level\":\"" ++ text r.level.label ++
    text "\",\"target\":\"" ++ text r.target.path ++ text "\",\"msg\":" ++
    jsonString r.message ++ text "\x7d"

def line (format : Format) (colors : Bool) (stamp : Stamp) (r : Record) : Text :=
  (match format with
    | .plain => plainLine colors stamp r
    | .json => jsonLine stamp r) ++ ['\n']

end CrsExport.Log
