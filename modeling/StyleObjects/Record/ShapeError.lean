import StyleObjects.Data
import StyleObjects.Json.Printer
import StyleObjects.Style.Property
import StyleObjects.Text.Quoted

/-!
# Shape errors

Why plain data is no record: some value has another shape than its place asks for.  The report
names both shapes, in words that depend on the text format.
-/

namespace StyleObjects

/-- The shape of a value, with the value itself if it is a scalar. -/
inductive Shape where
  | null
  | bool (b : Bool)
  | integer (n : Int)
  | real (x : Binary64)
  | text (s : String)
  | sequence
  | mapping
  | tagged
deriving DecidableEq, Repr

/-- The shape of a value. -/
def Shape.ofData : Data → Shape
  | .null => .null
  | .bool b => .bool b
  | .integer n => .integer n
  | .real x => .real x
  | .text s => .text s
  | .sequence _ => .sequence
  | .mapping _ => .mapping
  | .tagged _ _ => .tagged

/-- What a place asks for. -/
inductive Expectation where
  | text
  | bool
  | mapping
  | sequence
  | record
  | fieldName
deriving DecidableEq, Repr

/-- What a place asks for, in words. -/
def Expectation.describe : Expectation → String
  | .text => "a string"
  | .bool => "a boolean"
  | .mapping => "a map"
  | .sequence => "a sequence"
  | .record => "struct RawRecord"
  | .fieldName => "field identifier"

/-- The types of which a value has one of several forms. -/
inductive Union where
  | styleValue
  | recordSet
deriving DecidableEq, Repr

/-- The name of a union. -/
def Union.name : Union → String
  | .styleValue => "StyleValue"
  | .recordSet => "RecordSet"

/-- Why data does not have the shape that is asked for. -/
inductive ShapeError where
  /-- A value has another shape than its place asks for. -/
  | mismatch (found : Shape) (expected : Expectation)
  /-- A value has none of the forms of a union. -/
  | noVariant (type : Union)
  /-- A tag occurs inside of a style value. -/
  | taggedValue
  /-- A record in list form has more items than there are fields. -/
  | excessItems (count : Nat)
  /-- A field occurs twice. -/
  | repeatedField (name : String)
deriving DecidableEq, Repr

/-- The text formats. -/
inductive Format where
  | json
  | yaml
deriving DecidableEq, Repr

/-- A floating-point number in a report.  In YAML it is positional, with a fraction of zero if it
is whole. -/
def Format.describeReal (format : Format) (x : Binary64) : String :=
  match format with
  | .json => Json.numbers.write x
  | .yaml =>
    { cssNumbers with wholeSuffix := ".0", negativeZero := "-0.0" : NumberNotation }.write x

/-- A shape in words. -/
def Shape.describe (format : Format) : Shape → String
  | .null =>
    match format with
    | .json => "null"
    | .yaml => "unit value"
  | .bool b => "boolean \x60" ++ Json.writeBool b ++ "\x60"
  | .integer n => "integer \x60" ++ toString n ++ "\x60"
  | .real x => "floating point \x60" ++ format.describeReal x ++ "\x60"
  | .text s => "string " ++ Text.quoted s
  | .sequence => "sequence"
  | .mapping => "map"
  | .tagged => "enum"

/-- The report of a shape error. -/
def ShapeError.message (format : Format) : ShapeError → String
  | .mismatch found expected =>
    "invalid type: " ++ found.describe format ++ ", expected " ++ expected.describe
  | .noVariant type => "data did not match any variant of untagged enum " ++ type.name
  | .taggedValue => "untagged and internally tagged enums do not support enum input"
  | .excessItems count =>
    "invalid length " ++ toString count ++ ", expected fewer elements in array"
  | .repeatedField name => "duplicate field \x60" ++ name ++ "\x60"

end StyleObjects
