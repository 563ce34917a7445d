import StyleObjects.Data
import StyleObjects.Number.Reading

/-!
# The core schema of YAML

What a scalar stands for.  A plain scalar is a null, a truth value, an integer, a floating-point
number or a text, by its spelling; quoted scalars are texts.  Integers must fit 64 bits, and digits
after a leading zero are no number.
-/

namespace StyleObjects.Yaml

/-- The tags of the core schema. -/
def coreTag (name : String) : String :=
  "tag:yaml.org,2002:" ++ name

/-- Whether a text spells the null. -/
def isNull (s : String) : Bool :=
  s == "null" || s == "Null" || s == "NULL" || s == "~"

/-- The truth value that a text spells. -/
def bool? (s : String) : Option Bool :=
  if s = "true" ∨ s = "True" ∨ s = "TRUE" then some true
  else if s = "false" ∨ s = "False" ∨ s = "FALSE" then some false
  else none

/-! ## Numbers -/

/-- The number that digits write in a radix. -/
def radixNumber? (radix : Nat) (digits : List Char) : Option Nat :=
  if digits.isEmpty then none
  else digits.foldlM (fun n c => do
    let d ← Json.hexDigit? c
    if d < radix then pure (n * radix + d) else none) 0

/-- Whether a text is a zero with more digits after it, behind a sign or not. -/
def isZeroPadded (s : List Char) : Bool :=
  let digits :=
    match s with
    | '-' :: r => r
    | '+' :: r => r
    | r => r
  1 < digits.length && digits.head? == some '0' && digits.all Json.isDigit

/-- The whole number that a text without sign writes. -/
def magnitude? (s : List Char) : Option Nat :=
  match s with
  | '0' :: 'x' :: digits => radixNumber? 16 digits
  | '0' :: 'o' :: digits => radixNumber? 8 digits
  | '0' :: 'b' :: digits => radixNumber? 2 digits
  | digits => if isZeroPadded digits then none else radixNumber? 10 digits

/-- What a text means as an integer. -/
inductive IntegerReading where
  | integer (n : Int)
  /-- An integer past 64 bits. -/
  | excessive
  | notInteger

/-- Reads a text as an integer.  From 128 bits on it is no integer any more. -/
def readInteger (s : List Char) : IntegerReading :=
  let (negative, digits) := Binary64.readSign s
  match magnitude? digits with
  | none => .notInteger
  | some n =>
    if negative then
      if n ≤ Nat.pow 2 63 then .integer (-n)
      else if n ≤ Nat.pow 2 127 then .excessive
      else .notInteger
    else if n < Nat.pow 2 64 then .integer n
    else if n < Nat.pow 2 128 then .excessive
    else .notInteger

/-- The floating-point number that a text writes. -/
def real? (s : String) : Option Binary64 :=
  let unsigned := if s.toList.head? = some '+' then s.toList.tail else s.toList
  let word := String.ofList unsigned
  if word = ".inf" ∨ word = ".Inf" ∨ word = ".INF" then some (.infinite false)
  else if s = "-.inf" ∨ s = "-.Inf" ∨ s = "-.INF" then some (.infinite true)
  else if s = ".nan" ∨ s = ".NaN" ∨ s = ".NAN" then some .nan
  else
    let (negative, digits) := Binary64.readSign s.toList
    (Binary64.ofUnsigned? negative digits).filter Binary64.isFinite

/-! ## Scalars -/

/-- What a plain scalar without tag stands for, or nothing for an integer past 64 bits. -/
def plainData? (s : String) : Option Data :=
  if s = "" ∨ isNull s then some .null
  else
    match bool? s with
    | some b => some (.bool b)
    | none =>
      match readInteger s.toList with
      | .integer n => some (.integer n)
      | .excessive => none
      | .notInteger =>
        match if isZeroPadded s.toList then none else real? s with
        | some x => some (.real x)
        | none => some (.text s)

/-- What a scalar without tag stands for. -/
def untaggedData? (plain : Bool) (s : String) : Option Data :=
  if plain then plainData? s else some (.text s)

/-- The name of a tag that is local to the document. -/
def localTag? (tag : String) : Option String :=
  match tag.toList with
  | ['!'] => some "!"
  | '!' :: name => some (String.ofList name)
  | _ => none

/-- What a scalar stands for, or nothing if it does not fit its tag. -/
def scalarData? (tag : Option String) (plain : Bool) (s : String) : Option Data :=
  match tag with
  | none => untaggedData? plain s
  | some tag =>
    match localTag? tag with
    | some name => (untaggedData? plain s).map (.tagged name)
    | none =>
      if tag = coreTag "bool" then (bool? s).map .bool
      else if tag = coreTag "int" then
        match readInteger s.toList with
        | .integer n => some (.integer n)
        | _ => none
      else if tag = coreTag "float" then (real? s).map .real
      else if tag = coreTag "null" then if isNull s then some .null else none
      else some (.text s)

end StyleObjects.Yaml
