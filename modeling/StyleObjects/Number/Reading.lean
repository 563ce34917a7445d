import StyleObjects.Json.Token

/-!
# Reading numbers

Decimal notation for doubles: a sign, digits with a point among or around them, and an exponent.
Infinities and NaN are written as words in any letter case.  The nearest double is taken, and a
number past the largest double becomes an infinity.
-/

namespace StyleObjects.Binary64

/-- Reads a plus or minus sign, if there is one. -/
def readSign : List Char → Bool × List Char
  | '-' :: s => (true, s)
  | '+' :: s => (false, s)
  | s => (false, s)

/-- Reads the digits after a point, if there is one. -/
def readPlaces : List Char → List Nat × List Char
  | '.' :: s => Json.readDigits s
  | s => ([], s)

/-- Reads an exponent, or fails if digits are missing after its letter. -/
def readExponent : List Char → Option Int
  | [] => some 0
  | c :: s =>
    if c = 'e' ∨ c = 'E' then
      let (negative, s) := readSign s
      match Json.readSomeDigits s with
      | some (ds, []) =>
        let n : Int := Json.Numeral.ofDigits ds
        some (if negative then -n else n)
      | _ => none
    else none

/-- The number that a decimal without sign writes. -/
def ofUnsigned? (negative : Bool) (s : List Char) : Option Binary64 := do
  let (whole, s) := Json.readDigits s
  let (places, s) := readPlaces s
  let exponent ← readExponent s
  if whole.isEmpty && places.isEmpty then none
  else
    pure (ofDecimal negative (Json.Numeral.ofDigits (whole ++ places)) (exponent - places.length))

/-- The number that a text writes. -/
def ofText? (text : String) : Option Binary64 :=
  let (negative, s) := readSign text.toList
  let word := String.ofList (s.map Char.toLower)
  if word = "inf" ∨ word = "infinity" then some (infinite negative)
  else if word = "nan" then some nan
  else ofUnsigned? negative s

end StyleObjects.Binary64
