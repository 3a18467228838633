import CrsExport.Text.Numeral
/-! Text that is set off on a terminal. A sequence that begins with the escape character
chooses an effect, and another one ends all effects. -/

namespace CrsExport.Terminal

inductive Effect where
  | bold
  | underline
  | red
  | green
  | yellow
  | blue
  | purple
  | cyan
  deriving DecidableEq, Repr

def Effect.number : Effect → Nat
  | bold => 1
  | underline => 4
  | red => 31
  | green => 32
  | yellow => 33
  | blue => 34
  | purple => 35
  | cyan => 36

def sequence (number : Nat) : Text := text "\x1b[" ++ Text.ofNat number ++ ['m']

def paint (effects : List Effect) (t : Text) : Text :=
  effects.flatMap (fun e => sequence e.number) ++ t ++ sequence 0

end CrsExport.Terminal
