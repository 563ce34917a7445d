import StyleObjects.Compile
import StyleObjects.Json

/-!
# Records and sheets as JSON

Records are saved as JSON trees that can be loaded again.  Settings that are absent and collections
that are empty are left out; an absent style value is a null.
-/

namespace StyleObjects

mutual

/-- The JSON tree of a style value.  Infinities and NaN are no JSON numbers and become nulls. -/
def StyleValue.toJson : StyleValue → Json
  | .undefined => .null
  | .number x => if x.isFinite then .real x else .null
  | .text s => .text s
  | .block body => .object body.members

/-- The members of a declaration. -/
def Declaration.members : Declaration → List (String × Json)
  | .nil => []
  | .cons key value rest => (key, value.toJson) :: rest.members

end

/-- The JSON tree of a style module. -/
def StyleModule.toJson (m : StyleModule) : Json :=
  .object (m.entries.map fun e => (e.1, .object e.2.members))

/-- The JSON tree of a dictionary of texts. -/
def Dict.toJson (d : Dict String) : Json :=
  .object (d.entries.map fun e => (e.1, .text e.2))

/-- A member for a text that may be absent. -/
def optionalMember (name : String) (s : Option String) : List (String × Json) :=
  (s.map fun s => (name, Json.text s)).toList

/-- A member for a dictionary, unless it is empty. -/
def dictMember (name : String) (d : Dict String) : List (String × Json) :=
  if d.isEmpty then [] else [(name, d.toJson)]

/-- The JSON tree of a record. -/
def Record.toJson (r : Record) : Json :=
  .object (
    optionalMember "name" r.name ++
    optionalMember "prepend" r.prepend ++
    dictMember "overrides" r.overrides ++
    dictMember "combinators" r.combinators ++
    (if r.ignore.isEmpty then [] else [("ignore", .array (r.ignore.map .text))]) ++
    optionalMember "version" r.version ++
    [("map", .bool r.map), ("module", r.styles.toJson)])

/-- The JSON tree of a set of records. -/
def RecordSet.toJson : RecordSet → Json
  | one record => record.toJson
  | many records => .array (records.map Record.toJson)

/-! ## Sheets -/

/-- The JSON tree of a lookup map. -/
def mapToJson (entries : List (String × String)) : Json :=
  .object (entries.map fun e => (e.1, .text e.2))

namespace Sheet

/-- The members for the two lookup maps of a sheet. -/
def mapMembers (s : Sheet) : List (String × Json) :=
  [("objectToStyleMap", mapToJson s.selectors), ("styleToObjectMap", mapToJson s.objects)]

/-- The JSON tree of a sheet. -/
def toJson (s : Sheet) : Json :=
  .object ([("name", s.name.elim .null .text), ("css", .text s.css)] ++ s.mapMembers)

/-- The lookup maps of a sheet, each sorted by its keys. -/
def mapsJson (s : Sheet) : Json :=
  (Json.object s.mapMembers).sorted

end Sheet

/-- The JSON tree of a set of sheets. -/
def SheetSet.toJson : SheetSet → Json
  | one sheet => sheet.toJson
  | many sheets => .array (sheets.map Sheet.toJson)

end StyleObjects
