import CrsExport.Text.Utf8
/-! Text without what a terminal would not show: control characters, and the sequences that
begin with the escape character. -/

namespace CrsExport.Terminal

inductive Mode where
  | ground
  | escape
  | escapeTail
  | parameters
  | systemCommand
  | deviceEntry
  | deviceParameters
  | deviceTail
  | string
  deriving DecidableEq, Repr

inductive Interruption where
  | ends
  | pauses
  deriving DecidableEq, Repr

def within (low high : Nat) (c : Char) : Bool := low ≤ c.toNat && c.toNat ≤ high

def isLayout (c : Char) : Bool := c == '\t' || c == '\n' || c == '\x0C' || c == '\r'

def isShown (c : Char) : Bool := within 0x20 0x7E c || 0x80 ≤ c.toNat || isLayout c

namespace Mode

def letsLayoutThrough : Mode → Bool
  | escape | escapeTail | parameters => true
  | _ => false

def afterEscape (c : Char) : Mode :=
  if c = '[' then parameters
  else if c = ']' then systemCommand
  else if c = 'P' then deviceEntry
  else if c = 'X' ∨ c = '^' ∨ c = '_' then string
  else if within 0x20 0x2F c then escapeTail
  else if within 0x30 0x7E c then ground
  else escape

def afterDevice (c : Char) (here behind : Mode) : Mode :=
  if within 0x20 0x2F c then deviceTail
  else if within 0x30 0x3F c then behind
  else if within 0x40 0x7E c then string
  else here

/-- Where the reader stands behind a character that is not shown. An escape character always
begins a new sequence, and two other control characters break one off. A string also ends at
the byte that closes strings, in whatever character it stands. -/
def next (m : Mode) (c : Char) : Mode :=
  if c = '\x1B' then escape
  else if c = '\x18' ∨ c = '\x1A' then ground
  else
    match m with
    | ground => ground
    | escape => afterEscape c
    | escapeTail => if within 0x30 0x7E c then ground else escapeTail
    | parameters => if within 0x40 0x7E c then ground else parameters
    | systemCommand => if c = '\x07' then ground else systemCommand
    | deviceEntry => afterDevice c deviceEntry deviceParameters
    | deviceParameters =>
      afterDevice c deviceParameters (if within 0x3C 0x3F c then string else deviceParameters)
    | deviceTail => afterDevice c deviceTail string
    | string => if (Text.utf8 [c]).contains 0x9C then ground else string

end Mode

structure Reading where
  mode : Mode := .ground
  showing : Bool := true
  deriving DecidableEq, Repr

namespace Reading

def shows (r : Reading) (c : Char) : Bool :=
  if r.showing then isShown c else r.mode.letsLayoutThrough && isLayout c

def next (i : Interruption) (r : Reading) (c : Char) : Reading :=
  if r.shows c then
    if i = .ends ∨ 0x80 ≤ c.toNat then {} else { r with showing := true }
  else
    let mode := r.mode.next c
    { mode, showing := mode = .ground }

end Reading

def strip (i : Interruption) (t : Text) : Text :=
  let step (p : Reading × Text) (c : Char) : Reading × Text :=
    (p.1.next i c, if p.1.shows c then c :: p.2 else p.2)
  (t.foldl step ({}, [])).2.reverse

end CrsExport.Terminal
