/-!
# Double-precision numbers

The finite doubles are the numbers `± significand · 2 ^ scale / 2 ^ 1074` with a significand below
`2 ^ 53`.  Arithmetic is done exactly on natural numbers and then rounded to the nearest double, a
tie going to the even significand.
-/

namespace StyleObjects

/-- A number in the binary interchange format of 64 bits. -/
inductive Binary64 where
  /-- Not a number. -/
  | nan
  /-- An infinity. -/
  | infinite (negative : Bool)
  /-- The number `± significand · 2 ^ scale / 2 ^ 1074`. -/
  | finite (negative : Bool) (significand scale : Nat)
deriving DecidableEq, Repr, Inhabited

namespace Binary64

/-! ## Rounding -/

/-- The whole number nearest to `num / den`, the even one of two. -/
def roundDiv (num den : Nat) : Nat :=
  let whole := num / den
  let twice := 2 * (num % den)
  if twice < den then whole
  else if den < twice then whole + 1
  else whole + whole % 2

/-- The double nearest to `± num / den / 2 ^ 1074`: the smallest scale that leaves a significand of
at most 53 bits is taken, and a magnitude past the largest scale is infinite. -/
def roundScaled (negative : Bool) (num den : Nat) : Binary64 :=
  let scale := (num / den).log2 - 52
  let significand := roundDiv num (den * Nat.pow 2 scale)
  let (significand, scale) :=
    if significand = Nat.pow 2 53 then (Nat.pow 2 52, scale + 1) else (significand, scale)
  if 2045 < scale then infinite negative else finite negative significand scale

/-- The double nearest to `± num / den`. -/
def ofRatio (negative : Bool) (num den : Nat) : Binary64 :=
  roundScaled negative (num * Nat.pow 2 1074) den

/-- The double nearest to a whole number. -/
def ofInt (n : Int) : Binary64 :=
  ofRatio (n < 0) n.natAbs 1

/-- Zero, of either sign. -/
def zero (negative : Bool) : Binary64 :=
  finite negative 0 0

/-- The double nearest to `± digits · 10 ^ exponent`.  Numbers far outside of the range of doubles
are settled by their size alone. -/
def ofDecimal (negative : Bool) (digits : Nat) (exponent : Int) : Binary64 :=
  if digits = 0 then zero negative
  else
    let magnitude := (digits.log2 : Int) * 3 / 10 + exponent
    if 400 < magnitude then infinite negative
    else if magnitude < -400 then zero negative
    else if 0 ≤ exponent then ofRatio negative (digits * Nat.pow 10 exponent.toNat) 1
    else ofRatio negative digits (Nat.pow 10 (-exponent).toNat)

/-! ## Observations -/

/-- Whether a number is neither infinite nor a NaN. -/
def isFinite : Binary64 → Bool
  | finite .. => true
  | _ => false

/-- Whether a number is zero of either sign. -/
def isZero : Binary64 → Bool
  | finite _ significand _ => significand == 0
  | _ => false

/-- The same number with the other sign. -/
def neg : Binary64 → Binary64
  | nan => nan
  | infinite negative => infinite !negative
  | finite negative significand scale => finite (!negative) significand scale

/-! ## Products and quotients of finite numbers -/

/-- The rounded product of two finite numbers. -/
def mul : Binary64 → Binary64 → Binary64
  | finite n₁ m₁ s₁, finite n₂ m₂ s₂ =>
    roundScaled (n₁ != n₂) (m₁ * m₂ * Nat.pow 2 (s₁ + s₂)) (Nat.pow 2 1074)
  | _, _ => nan

/-- The rounded quotient of two finite numbers, the second not zero. -/
def div : Binary64 → Binary64 → Binary64
  | finite n₁ m₁ s₁, finite n₂ m₂ s₂ =>
    if m₂ = 0 then nan
    else roundScaled (n₁ != n₂) (m₁ * Nat.pow 2 s₁ * Nat.pow 2 1074) (m₂ * Nat.pow 2 s₂)
  | _, _ => nan

end Binary64

end StyleObjects
