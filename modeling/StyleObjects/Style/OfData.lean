import StyleObjects.Record.ShapeError
import StyleObjects.Style.StyleModule

/-!
# Reading style modules

A style value is a null, a number, a text or a mapping with texts as keys; truth values, sequences
and tagged values are none.  A declaration is a mapping of texts to style values, and a module is a
mapping of texts to declarations.  In YAML a null may stand for an empty mapping, and tags around a
key or a mapping are passed over.
-/

namespace StyleObjects

mutual

/-- The style value that data stands for. -/
def StyleValue.ofData? : Data → Option StyleValue
  | .null => some .undefined
  | .integer n => some (.number (.ofInt n))
  | .real x => some (.number x)
  | .text s => some (.text s)
  | .mapping entries => (Declaration.insertAll? entries .nil).map .block
  | .bool _ => none
  | .sequence _ => none
  | .tagged _ _ => none

/-- Inserts entries into a declaration, if all keys are texts and all values style values. -/
def Declaration.insertAll? : List (Data × Data) → Declaration → Option Declaration
  | [], done => some done
  | (.text key, value) :: rest, done =>
    match StyleValue.ofData? value with
    | some value => Declaration.insertAll? rest (done.insert key value)
    | none => none
  | _ :: _, _ => none

end

/-- The result of reading data. -/
abbrev Shaped := Except ShapeError

/-- The error of a value in a place that asks for something else. -/
def mismatch {α : Type} (d : Data) (expected : Expectation) : Shaped α :=
  throw (.mismatch (.ofData d) expected)

/-- Reads a style value. -/
def readStyleValue (d : Data) : Shaped StyleValue :=
  if d.hasTag then throw .taggedValue
  else
    match StyleValue.ofData? d with
    | some value => pure value
    | none => throw (.noVariant .styleValue)

/-- Reads a text. -/
def readText (d : Data) : Shaped String :=
  match d.untagged with
  | .text s => pure s
  | other => mismatch other .text

/-- Reads a truth value. -/
def readBool (d : Data) : Shaped Bool :=
  match d.untagged with
  | .bool b => pure b
  | other => mismatch other .bool

/-- The entries of a mapping.  In YAML a null is a mapping without entries. -/
def readMapping (format : Format) (expected : Expectation) (d : Data) :
    Shaped (List (Data × Data)) :=
  match d.untagged, format with
  | .mapping entries, _ => pure entries
  | .null, .yaml => pure []
  | other, _ => mismatch other expected

/-- The items of a sequence.  In YAML a null is a sequence without items. -/
def readSequence (format : Format) (d : Data) : Shaped (List Data) :=
  match d.untagged, format with
  | .sequence items, _ => pure items
  | .null, .yaml => pure []
  | other, _ => mismatch other .sequence

/-- Reads the entries of a mapping one after the other, each key before its value, and adds them to
what is there. -/
def readEntries {α β : Type} (add : β → String → α → β) (readValue : Data → Shaped α)
    (start : β) (entries : List (Data × Data)) : Shaped β :=
  entries.foldlM (fun done e => do
    let key ← readText e.1
    let value ← readValue e.2
    pure (add done key value)) start

/-- Reads a declaration. -/
def Declaration.ofData (format : Format) (d : Data) : Shaped Declaration := do
  readEntries (fun d key value => d.insert key value) readStyleValue .nil
    (← readMapping format .mapping d)

/-- Reads a style module. -/
def StyleModule.ofData (format : Format) (d : Data) : Shaped StyleModule := do
  readEntries StyleModule.add (Declaration.ofData format) .empty (← readMapping format .mapping d)

end StyleObjects
