import StyleObjects.Json

/-!
# Plain data

What a record is read from, whichever text format it was written in.  Mappings keep the order of
their entries; a key may be any value, and a value may carry a tag.
-/

namespace StyleObjects

/-- A tree of plain data. -/
inductive Data where
  | null
  | bool (b : Bool)
  | integer (n : Int)
  | real (x : Binary64)
  | text (s : String)
  | sequence (items : List Data)
  | mapping (entries : List (Data × Data))
  /-- A value marked with a name. -/
  | tagged (tag : String) (value : Data)
deriving Repr, BEq, Inhabited

namespace Data

/-- The value without the tags around it. -/
def untagged : Data → Data
  | tagged _ value => value.untagged
  | d => d

mutual

/-- Whether a tag occurs anywhere in a tree. -/
def hasTag : Data → Bool
  | sequence items => anyTag items
  | mapping entries => anyTagIn entries
  | tagged _ _ => true
  | null => false
  | bool _ => false
  | integer _ => false
  | real _ => false
  | text _ => false

/-- Whether a tag occurs in some item. -/
def anyTag : List Data → Bool
  | [] => false
  | item :: rest => item.hasTag || anyTag rest

/-- Whether a tag occurs in some entry. -/
def anyTagIn : List (Data × Data) → Bool
  | [] => false
  | (key, value) :: rest => key.hasTag || value.hasTag || anyTagIn rest

end

end Data

mutual

/-- A JSON tree as plain data. -/
def Json.toData : Json → Data
  | .null => .null
  | .bool b => .bool b
  | .integer n => .integer n
  | .real x => .real x
  | .text s => .text s
  | .array items => .sequence (Json.itemsToData items)
  | .object members => .mapping (Json.membersToData members)

/-- Items of an array as plain data. -/
def Json.itemsToData : List Json → List Data
  | [] => []
  | item :: rest => item.toData :: Json.itemsToData rest

/-- Members of an object as entries. -/
def Json.membersToData : List (String × Json) → List (Data × Data)
  | [] => []
  | (name, value) :: rest => (.text name, value.toData) :: Json.membersToData rest

end

end StyleObjects
