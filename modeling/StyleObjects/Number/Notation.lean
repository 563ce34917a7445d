import StyleObjects.Number.Shortest

/-!
# Writing numbers

The digits of a number are its shortest decimal.  A notation says how they are laid out: between
which powers of ten they are written positionally, whether a whole number keeps a fraction of zero,
and what becomes of the numbers without digits.
-/

namespace StyleObjects

/-- The decisions of one format for numbers. -/
structure NumberNotation where
  /-- Whether the number `d.ddd · 10 ^ e` is written positionally. -/
  positional : Int → Bool
  /-- What follows a whole number written positionally. -/
  wholeSuffix : String
  tie : Tie
  negativeZero : String
  nan : String
  infinity : String
  negativeInfinity : String

namespace NumberNotation

/-- Digits of a number, most significant first. -/
def digits (n : Nat) : List Char :=
  Nat.toDigits 10 n

/-- Writes `digits · 10 ^ exponent` with a decimal point and no power of ten. -/
def layPositional (wholeSuffix : List Char) (ds : List Char) (exponent : Int) : List Char :=
  if 0 ≤ exponent then ds ++ List.replicate exponent.toNat '0' ++ wholeSuffix
  else
    let places := (-exponent).toNat
    if places < ds.length then
      ds.take (ds.length - places) ++ '.' :: ds.drop (ds.length - places)
    else
      '0' :: '.' :: (List.replicate (places - ds.length) '0' ++ ds)

/-- Writes one digit, the others after a point, and the power of ten with its sign. -/
def layScientific (ds : List Char) (power : Int) : List Char :=
  let mantissa :=
    match ds with
    | [] | [_] => ds
    | d :: others => d :: '.' :: others
  mantissa ++ 'e' :: (if power < 0 then '-' else '+') :: digits power.natAbs

/-- Writes a positive decimal, without the zeros that it ends with. -/
def layDecimal (style : NumberNotation) (d : Decimal) : List Char :=
  let ds := digits d.digits
  let kept := (ds.reverse.dropWhile (· == '0')).reverse
  let exponent := d.exponent + (ds.length - kept.length)
  let power := exponent + kept.length - 1
  if style.positional power then layPositional style.wholeSuffix.toList kept exponent
  else layScientific kept power

/-- Writes a number. -/
def write (style : NumberNotation) : Binary64 → String
  | .nan => style.nan
  | .infinite negative => if negative then style.negativeInfinity else style.infinity
  | .finite negative significand scale =>
    if significand = 0 then
      if negative then style.negativeZero else "0" ++ style.wholeSuffix
    else
      let body := style.layDecimal (Binary64.shortest style.tie significand scale)
      String.ofList (if negative then '-' :: body else body)

end NumberNotation

end StyleObjects
