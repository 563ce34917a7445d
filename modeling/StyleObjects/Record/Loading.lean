import StyleObjects.Json.Parser
import StyleObjects.Record.OfData
import StyleObjects.Yaml.Loading

/-!
# Loading records

Records are loaded from a JSON or YAML text, which holds one record or a list of records.
-/

namespace StyleObjects

/-- Why a text holds no records. -/
inductive LoadError where
  /-- The text does not follow its format. -/
  | notFormat (format : Format)
  /-- The text holds more than one document. -/
  | severalDocuments
  /-- The text follows too many aliases. -/
  | repetition
  | shape (format : Format) (e : ShapeError)
  | missingModule (label : RecordLabel)
deriving DecidableEq, Repr

/-- The report of a missing module. -/
def RecordLabel.missingModule (label : RecordLabel) : String :=
  "missing module in record " ++ label.describe

/-- What the reports of a format start with. -/
def Format.invalidRecord : Format → String
  | .json => "invalid JSON record"
  | .yaml => "invalid YAML record"

/-- The report of a failure to load, if there is more to say than that the text does not follow its
format. -/
def LoadError.message? : LoadError → Option String
  | .notFormat _ => none
  | .severalDocuments =>
    some (Format.yaml.invalidRecord ++
      ": deserializing from YAML containing more than one document is not supported")
  | .repetition => some (Format.yaml.invalidRecord ++ ": repetition limit exceeded")
  | .shape format e => some (format.invalidRecord ++ ": " ++ e.message format)
  | .missingModule label => some label.missingModule

/-- The error of data in a text format. -/
def RecordError.inText (format : Format) : RecordError → LoadError
  | .shape e => .shape format e
  | .missingModule label => .missingModule label

/-- The error of a YAML text. -/
def Yaml.LoadError.inText : Yaml.LoadError → StyleObjects.LoadError
  | .syntaxError => .notFormat .yaml
  | .repetition => .repetition
  | .severalDocuments => .severalDocuments

/-- The plain data of a text. -/
def Format.parse (format : Format) (text : String) : Except LoadError Data :=
  match format with
  | .json =>
    match Json.parse? text with
    | some j => pure j.sorted.toData
    | none => throw (.notFormat .json)
  | .yaml => (Yaml.parse text).mapError Yaml.LoadError.inText

/-- Loads records from a text. -/
def RecordSet.parse (format : Format) (text : String) : Except LoadError RecordSet := do
  let d ← format.parse text
  (RecordSet.ofData format d).mapError (·.inText format)

/-! ## Style modules -/

namespace Yaml

/-- Whether a node is a scalar of which nothing is written. -/
def isEmptyScalar : Node → Bool
  | .scalar _ true "" => true
  | _ => false

/-- The entries of a mapping node; nothing at all stands for a mapping without entries. -/
def mappingEntries (anchors : Anchors) (n : Node) : Loader (List (Node × Node)) := do
  match ← follow anchors n with
  | .mapping _ entries => pure entries
  | n => if isEmptyScalar n then pure [] else throw .syntaxError

/-- The text of a key, which may be any scalar. -/
def keyText (anchors : Anchors) (n : Node) : Loader String := do
  match ← follow anchors n with
  | .scalar _ _ text => pure text
  | _ => throw .syntaxError

/-- The style value of a node. -/
def styleValue (anchors : Anchors) (n : Node) : Loader StyleValue := do
  match readStyleValue (← load false anchors (maxDepth - 2) n) with
  | .ok value => pure value
  | .error _ => throw .syntaxError

/-- The declaration of a node.  Of entries with the same key, the last counts. -/
def declaration (anchors : Anchors) (n : Node) : Loader Declaration := do
  (← mappingEntries anchors n).foldlM (fun d e => do
    let key ← keyText anchors e.1
    pure (d.insert key (← styleValue anchors e.2))) .nil

/-- The style module of a node.  Of objects with the same name, the last counts. -/
def styleModule (anchors : Anchors) (n : Node) : Loader StyleModule := do
  (← mappingEntries anchors n).foldlM (fun m e => do
    let name ← keyText anchors e.1
    pure (m.add name (← declaration anchors e.2))) .empty

end Yaml

/-- Loads a style module from a text.  Here repeated keys are allowed, and each of their values must
fit. -/
def StyleModule.parse? (format : Format) (text : String) : Option StyleModule :=
  match format with
  | .json => (Json.parse? text).bind fun j => (StyleModule.ofData .json j.toData).toOption
  | .yaml => (Yaml.withDocument text .empty Yaml.styleModule).toOption

end StyleObjects
