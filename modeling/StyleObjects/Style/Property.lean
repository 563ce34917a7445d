import StyleObjects.Kebab
import StyleObjects.Number.Notation
import StyleObjects.Style.RuleKind
import StyleObjects.Text.Search

/-!
# Properties

The written form of the leaf entries of a declaration: the name of the property, its value, and one
line for every entry that has a value.
-/

namespace StyleObjects

/-- The keys whose numbers never take a unit.  Only a key written exactly so is one of them. -/
def unitlessKeys : List String :=
  ["flexGrow", "flexShrink", "fontWeight", "opacity", "order", "zIndex", "zoom"]

/-- The unit of all other numbers. -/
def defaultUnit : String := "px"

/-- Numbers in a stylesheet never have an exponent, a whole number has no fraction, and zero has no
sign. -/
def cssNumbers : NumberNotation where
  positional _ := true
  wholeSuffix := ""
  tie := .up
  negativeZero := "0"
  nan := "NaN"
  infinity := "inf"
  negativeInfinity := "-inf"

/-- A number as it stands in a stylesheet. -/
def formatNumber (x : Binary64) : String :=
  cssNumbers.write x

/-- The name of a property.  A key with a dash is kept; any other is put into kebab case, where a
name that starts with `webkit-` takes the dash of a vendor in front. -/
def propertyName (key : String) : String :=
  if '-' ∈ key.toList then key
  else
    let name := kebabCase key
    if keyStarts "webkit-" name then "-" ++ name else name

/-- The value of a property, or nothing for an entry that is not written. -/
def propertyValue (key : String) : StyleValue → Option String
  | .text s => some s
  | .number x =>
    some (if x.isZero || unitlessKeys.contains key then formatNumber x
      else formatNumber x ++ defaultUnit)
  | .undefined => none
  | .block _ => none

/-- The line of an entry that is a property with a value. -/
def propertyLine (key : String) (value : StyleValue) : Option String :=
  if RuleKind.classify key value = .property then
    (propertyValue key value).map fun v => propertyName key ++ ": " ++ v
  else none

/-- The lines of the properties of one level, in the order of the entries. -/
def Declaration.lines (d : Declaration) : List String :=
  d.entries.filterMap fun e => propertyLine e.1 e.2

/-- A key with a dash is a property name already. -/
theorem propertyName_of_dash {key : String} (h : '-' ∈ key.toList) : propertyName key = key := by
  simp [propertyName, h]

end StyleObjects
