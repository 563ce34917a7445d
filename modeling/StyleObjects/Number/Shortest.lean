import StyleObjects.Number.Binary64

/-!
# Shortest decimals

The shortest decimal of a positive double is the one with the fewest digits among those that round
back to it, and the nearest of these to it.  Decimal grids are tried from the coarsest on: if a
point of a grid rounds back, so does one of the two points next to the number, so only those two
are looked at.
-/

namespace StyleObjects

/-- A decimal number `digits · 10 ^ exponent`. -/
structure Decimal where
  digits : Nat
  exponent : Int
deriving DecidableEq, Repr

/-- Which of two equally near decimals is written. -/
inductive Tie where
  /-- The larger one. -/
  | up
  /-- The one whose last digit is even. -/
  | even
deriving DecidableEq, Repr

namespace Binary64

/-- The rationals that round to a double, in quarters of its unit in the last place. -/
structure Interval where
  low : Nat
  value : Nat
  high : Nat
  /-- Whether the ends belong to the interval. -/
  closed : Bool

/-- The interval of a significand at a scale.  Below a power of two the next double is half as
far away. -/
def interval (significand scale : Nat) : Interval :=
  let value := 4 * significand
  { low := if significand = Nat.pow 2 52 ∧ 0 < scale then value - 1 else value - 2
    value
    high := value + 2
    closed := significand % 2 == 0 }

/-- Whether `num / den` quarters lie in the interval. -/
def Interval.holds (i : Interval) (num den : Nat) : Bool :=
  if i.closed then i.low * den ≤ num && num ≤ i.high * den
  else i.low * den < num && num < i.high * den

/-- The size of one step of the grid `10 ^ exponent` as a fraction, in quarters of the unit
`2 ^ scale / 2 ^ 1074`. -/
def gridStep (scale : Nat) (exponent : Int) : Nat × Nat :=
  if 0 ≤ exponent then (4 * Nat.pow 10 exponent.toNat * Nat.pow 2 1074, Nat.pow 2 scale)
  else (4 * Nat.pow 2 1074, Nat.pow 2 scale * Nat.pow 10 (-exponent).toNat)

/-- The multiple of the grid step that is written for the number in `i`, if one of the two next to
it rounds back. -/
def onGrid? (tie : Tie) (i : Interval) (scale : Nat) (exponent : Int) : Option Nat :=
  let (num, den) := gridStep scale exponent
  let below := i.value * den / num
  let fits (k : Nat) : Bool := 0 < k && i.holds (k * num) den
  let twice := 2 * (i.value * den % num)
  let nearer : Nat :=
    if twice < num then below
    else if num < twice then below + 1
    else match tie with
      | .up => below + 1
      | .even => below + below % 2
  if fits below && fits (below + 1) then some nearer
  else if fits below then some below
  else if fits (below + 1) then some (below + 1)
  else none

/-- The first hit on `steps` grids, from `10 ^ (steps - 343)` down to `10 ^ -342`. -/
def firstOnGrid (tie : Tie) (i : Interval) (scale : Nat) : Nat → Decimal
  | 0 => ⟨0, 0⟩
  | steps + 1 =>
    let exponent : Int := steps - 342
    match onGrid? tie i scale exponent with
    | some digits => ⟨digits, exponent⟩
    | none => firstOnGrid tie i scale steps

/-- The shortest decimal of the positive double `significand · 2 ^ scale / 2 ^ 1074`.  A factor of 2
is less than a third of a factor of 10, so the first grid is coarser than the number. -/
def shortest (tie : Tie) (significand scale : Nat) : Decimal :=
  firstOnGrid tie (interval significand scale) scale ((significand.log2 + scale) / 3 + 21)

end Binary64

end StyleObjects
