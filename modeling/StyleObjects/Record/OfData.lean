import StyleObjects.Record
import StyleObjects.Style.OfData

/-!
# Reading records

A record is a mapping whose fields may be missing and whose other fields are passed over; only the
module must be there.  In JSON a record may also be a list of its fields in a fixed order.  The
fields are read in the order in which they come, and the first one that does not fit is reported.
-/

namespace StyleObjects

/-- A record of which every field may be missing. -/
structure Draft where
  name : Option (Option String)
  prepend : Option (Option String)
  overrides : Option (Dict String)
  combinators : Option (Dict String)
  ignore : Option (List String)
  version : Option (Option String)
  map : Option (Option Bool)
  styles : Option (Option StyleModule)

/-- How a record without module is named in a report. -/
inductive RecordLabel where
  | named (name : String)
  | position (index : Nat)
  | unnamed
deriving DecidableEq, Repr

/-- A record label in words. -/
def RecordLabel.describe : RecordLabel → String
  | .named name => "'" ++ name ++ "'"
  | .position index => "#" ++ toString index
  | .unnamed => "(unnamed)"

/-- The fields of a record. -/
inductive Field where
  | name
  | prepend
  | overrides
  | combinators
  | ignore
  | version
  | map
  | styles
deriving DecidableEq, Repr

namespace Field

/-- The name of a field. -/
def key : Field → String
  | name => "name"
  | prepend => "prepend"
  | overrides => "overrides"
  | combinators => "combinators"
  | ignore => "ignore"
  | version => "version"
  | map => "map"
  | styles => "module"

/-- The fields in the order of the list form. -/
def all : List Field :=
  [name, prepend, overrides, combinators, ignore, version, map, styles]

/-- The field of a given name. -/
def ofKey? (key : String) : Option Field :=
  all.find? fun f => f.key = key

end Field

/-- Reads a value that may be null. -/
def readOptional {α : Type} (read : Data → Shaped α) (d : Data) : Shaped (Option α) :=
  match d with
  | .null => pure none
  | d => some <$> read d

/-- Reads a mapping of texts to texts. -/
def readDict (format : Format) (d : Data) : Shaped (Dict String) := do
  readEntries Dict.insert readText .empty (← readMapping format .mapping d)

/-- Reads a list of texts. -/
def readTexts (format : Format) (d : Data) : Shaped (List String) := do
  (← readSequence format d).mapM readText

namespace Draft

/-- The record without any field. -/
def empty : Draft := ⟨none, none, none, none, none, none, none, none⟩

/-- Whether a field has been read. -/
def has (r : Draft) : Field → Bool
  | .name => r.name.isSome
  | .prepend => r.prepend.isSome
  | .overrides => r.overrides.isSome
  | .combinators => r.combinators.isSome
  | .ignore => r.ignore.isSome
  | .version => r.version.isSome
  | .map => r.map.isSome
  | .styles => r.styles.isSome

/-- Reads the value of a field. -/
def readField (format : Format) (r : Draft) (field : Field) (d : Data) : Shaped Draft := do
  match field with
  | .name => pure { r with name := some (← readOptional readText d) }
  | .prepend => pure { r with prepend := some (← readOptional readText d) }
  | .overrides => pure { r with overrides := some (← readDict format d) }
  | .combinators => pure { r with combinators := some (← readDict format d) }
  | .ignore => pure { r with ignore := some (← readTexts format d) }
  | .version => pure { r with version := some (← readOptional readText d) }
  | .map => pure { r with map := some (← readOptional readBool d) }
  | .styles => pure { r with styles := some (← readOptional (StyleModule.ofData format) d) }

/-- Reads the name of a field. -/
def readKey (d : Data) : Shaped String :=
  match d.untagged with
  | .text s => pure s
  | other => mismatch other .fieldName

/-- Reads one entry of a record in mapping form. -/
def readEntry (format : Format) (r : Draft) (entry : Data × Data) : Shaped Draft := do
  match Field.ofKey? (← readKey entry.1) with
  | none => pure r
  | some field =>
    if r.has field then throw (.repeatedField field.key) else r.readField format field entry.2

/-- Reads a record in mapping form. -/
def ofEntries (format : Format) (entries : List (Data × Data)) : Shaped Draft :=
  entries.foldlM (readEntry format) empty

/-- Reads a record in list form. -/
def ofItems (format : Format) (items : List Data) : Shaped Draft := do
  let r ← (Field.all.zip items).foldlM (fun r e => readField format r e.1 e.2) empty
  if Field.all.length < items.length then throw (.excessItems items.length) else pure r

/-- Reads a record of which every field may be missing. -/
def ofData (format : Format) (d : Data) : Shaped Draft :=
  match d, format with
  | .sequence items, .json => ofItems .json items
  | d, format => do ofEntries format (← readMapping format .record d)

/-- How the record is named in a report: by its name, or else by its position. -/
def label (r : Draft) (index : Option Nat) : RecordLabel :=
  match r.name.join, index with
  | some name, _ => .named name
  | none, some index => .position index
  | none, none => .unnamed

/-- The record, with the fields that are missing taken as absent, or its label if it has no
module. -/
def finish (r : Draft) (index : Option Nat) : Except RecordLabel Record :=
  match r.styles.join with
  | none => throw (r.label index)
  | some styles =>
    pure {
      name := r.name.join
      prepend := r.prepend.join
      overrides := r.overrides.getD .empty
      combinators := r.combinators.getD .empty
      ignore := r.ignore.getD []
      version := r.version.join
      map := r.map.join.getD false
      styles }

end Draft

/-! ## Sets of records -/

/-- Why data is no record or set of records. -/
inductive RecordError where
  | shape (e : ShapeError)
  | missingModule (label : RecordLabel)
deriving DecidableEq, Repr

/-- Reads a record, which is at a position of a list or on its own. -/
def Record.ofData (format : Format) (index : Option Nat) (d : Data) :
    Except RecordError Record := do
  let draft ← (Draft.ofData format d).mapError .shape
  (draft.finish index).mapError .missingModule

/-- Reads the records of a list from a position on; the first that does not fit is reported. -/
def Record.listOfData (format : Format) (index : Nat) :
    List Data → Except RecordError (List Record)
  | [] => pure []
  | d :: rest => do
    let record ← Record.ofData format (some index) d
    pure (record :: (← Record.listOfData format (index + 1) rest))

namespace RecordSet

/-- Reads a record, or a list of records. -/
def ofData (format : Format) (d : Data) : Except RecordError RecordSet :=
  match d with
  | .sequence items => many <$> Record.listOfData format 0 items
  | d => one <$> Record.ofData format none d

/-- Reads a list of records or a single record by trying both: a list whose items are not all
records may still be one record in list form. -/
def ofAnyData (d : Data) : Shaped RecordSet :=
  let asList : Option RecordSet :=
    match d with
    | .sequence items => (Record.listOfData .json 0 items).toOption.map many
    | _ => none
  match asList.or ((Record.ofData .json none d).toOption.map one) with
  | some set => pure set
  | none => throw (.noVariant .recordSet)

end RecordSet

end StyleObjects
