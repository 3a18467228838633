import CrsExport.Text.Numeral
/-! The shortest decimal that reads back as a given binary number, and its text. All
arithmetic is exact. -/

namespace CrsExport

structure Decimal where
  digits : Nat
  exponent : Int
  deriving DecidableEq, Repr

namespace Decimal

structure Ratio where
  num : Nat
  den : Nat

namespace Ratio

def binary (m : Nat) (q : Int) : Ratio :=
  if q < 0 then ⟨m, Nat.pow 2 (-q).toNat⟩ else ⟨m * Nat.pow 2 q.toNat, 1⟩

def decimal (d : Nat) (e : Int) : Ratio :=
  if e < 0 then ⟨d, Nat.pow 10 (-e).toNat⟩ else ⟨d * Nat.pow 10 e.toNat, 1⟩

def less (a b : Ratio) : Bool := a.num * b.den < b.num * a.den

def quotient (a b : Ratio) : Nat := (a.num * b.den) / (a.den * b.num)

def distance (a b : Ratio) : Ratio :=
  let x := a.num * b.den
  let y := b.num * a.den
  ⟨(x - y) + (y - x), a.den * b.den⟩

end Ratio

def leadingExponent (r : Ratio) : Nat → Int → Int
  | 0, e => e
  | fuel + 1, e => if r.less (.decimal 1 e) then leadingExponent r fuel (e - 1) else e

def trimZeros : Nat → Decimal → Decimal
  | 0, d => d
  | fuel + 1, d =>
    if d.digits != 0 && d.digits % 10 = 0 then
      trimZeros fuel ⟨d.digits / 10, d.exponent + 1⟩
    else d

def candidate (v low high : Ratio) (closed : Bool) (top : Int) (count : Nat) :
    Option Decimal :=
  let e := top - (count : Int) + 1
  let n := v.quotient (.decimal 1 e)
  let fits (d : Nat) : Bool :=
    let r := Ratio.decimal d e
    if closed then !r.less low && !high.less r else low.less r && r.less high
  let below := v.distance (.decimal n e)
  let above := v.distance (.decimal (n + 1) e)
  let down := fits n
  let up := fits (n + 1)
  if down && up then
    if below.less above || (!above.less below && n % 2 = 0) then some ⟨n, e⟩
    else some ⟨n + 1, e⟩
  else if down then some ⟨n, e⟩
  else if up then some ⟨n + 1, e⟩
  else none

/-- The decimal with the fewest digits that lies nearer to `m · 2 ^ q` than to any other
binary number of the same precision. `narrow` tells that the next smaller one is only half
as far away as the next greater one. -/
def shortest (m : Nat) (q : Int) (narrow : Bool) : Decimal :=
  let v := Ratio.binary m q
  let low := if narrow then Ratio.binary (4 * m - 1) (q - 2) else .binary (2 * m - 1) (q - 1)
  let high := Ratio.binary (2 * m + 1) (q - 1)
  let top := leadingExponent v 700 330
  match (List.range 17).findSome? fun i => candidate v low high (m % 2 = 0) top (i + 1) with
  | some d => d.trimZeros 20
  | none => ⟨m, q⟩

structure Style where
  leastPlain : Int
  greatestPlain : Int

def render (style : Style) (d : Decimal) : Text :=
  let ds := Text.ofNat d.digits
  let top : Int := ds.length + d.exponent - 1
  if style.leastPlain ≤ top ∧ top ≤ style.greatestPlain then
    if 0 ≤ d.exponent then
      ds ++ List.replicate d.exponent.toNat '0' ++ text ".0"
    else if 0 ≤ top then
      ds.take (top.toNat + 1) ++ ['.'] ++ ds.drop (top.toNat + 1)
    else text "0." ++ List.replicate (-top - 1).toNat '0' ++ ds
  else
    let tail := ds.drop 1
    ds.take 1 ++ (if tail.isEmpty then [] else '.' :: tail) ++ ['e'] ++
      [if top < 0 then '-' else '+'] ++ Text.ofNat top.natAbs

def renderBits (style : Style) (bits : UInt64) : Text :=
  let n := bits.toNat
  let unit : Nat := Nat.pow 2 52
  let sign := if n / Nat.pow 2 63 = 0 then [] else ['-']
  let biased : Nat := n / unit % Nat.pow 2 11
  let fraction : Nat := n % unit
  if biased = 0 ∧ fraction = 0 then sign ++ text "0.0"
  else
    let (m, q) : Nat × Int :=
      if biased = 0 then (fraction, -1074) else (fraction + unit, (biased : Int) - 1075)
    sign ++ (shortest m q (fraction = 0 ∧ 1 < biased)).render style

end Decimal
end CrsExport
