import StyleObjects.Json

/-!
# Numerals of JSON

A numeral without fraction and exponent is an integer if it fits 64 bits.  Any other numeral is a
double: its leading digits are gathered into a significand of at most 64 bits, later digits count
for their place only, and the significand is scaled by a power of ten in double precision.  Both
the significand and the power are rounded, so the result can be a neighbour of the nearest double.
-/

namespace StyleObjects.Json

/-- A numeral, digit by digit. -/
structure Numeral where
  negative : Bool
  whole : List Nat
  fraction : Option (List Nat)
  /-- The sign and the digits of the exponent. -/
  power : Option (Bool × List Nat)
deriving DecidableEq, Repr

namespace Numeral

/-- Gathers leading digits while the significand stays below `2 ^ 64`, and keeps the others. -/
def gather (significand : Nat) : List Nat → Nat × List Nat
  | [] => (significand, [])
  | d :: ds =>
    if significand * 10 + d < Nat.pow 2 64 then gather (significand * 10 + d) ds
    else (significand, d :: ds)

/-- The double nearest to a power of ten. -/
def powerOfTen (exponent : Nat) : Binary64 :=
  Binary64.ofDecimal false 1 exponent

/-- Scales a significand by a power of ten, or fails if the result is out of range.  Dividing twice
by the largest power leaves nothing of a significand of 64 bits. -/
def scale (significand : Nat) (exponent : Int) : Option Binary64 :=
  let start := Binary64.ofInt significand
  if significand = 0 then some start
  else if 308 < exponent then none
  else if 0 ≤ exponent then
    let product := start.mul (powerOfTen exponent.toNat)
    if product.isFinite then some product else none
  else if -308 ≤ exponent then some (start.div (powerOfTen (-exponent).toNat))
  else if -616 ≤ exponent then
    some ((start.div (powerOfTen 308)).div (powerOfTen (-308 - exponent).toNat))
  else some (Binary64.zero false)

/-- The number that digits stand for. -/
def ofDigits (ds : List Nat) : Nat :=
  ds.foldl (fun s d => s * 10 + d) 0

/-- The double of a numeral. -/
def real? (n : Numeral) : Option Binary64 :=
  let (leading, dropped) := gather 0 n.whole
  let places := n.fraction.getD []
  let (significand, ignored) := gather leading places
  let exponent : Int := dropped.length - (places.length - ignored.length : Nat)
  let exponent : Int :=
    match n.power with
    | none => exponent
    | some (negative, ds) => if negative then exponent - ofDigits ds else exponent + ofDigits ds
  (scale significand exponent).map fun x => if n.negative then x.neg else x

/-- The integer of a numeral, if it is one that fits 64 bits.  A minus sign before zero makes it a
double. -/
def integer? (n : Numeral) : Option Int :=
  let magnitude := ofDigits n.whole
  if n.fraction.isSome || n.power.isSome then none
  else if n.negative then
    if 0 < magnitude ∧ magnitude ≤ Nat.pow 2 63 then some (-magnitude) else none
  else if magnitude < Nat.pow 2 64 then some magnitude else none

/-- The JSON tree of a numeral, or nothing if it is out of range. -/
def value? (n : Numeral) : Option Json :=
  match n.integer? with
  | some i => some (.integer i)
  | none => n.real?.map .real

end Numeral

end StyleObjects.Json
