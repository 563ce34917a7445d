import StyleObjects.Style.StyleModule

/-!
# Records

A record is a style module together with the settings that it is compiled with.  A setting that is
the empty string counts as absent, and a setting for a name that the module does not define has no
effect; such names can be listed.

Main results:

- `Record.mem_dangling`: the listed names are those used in a setting and missing from the module.
-/

namespace StyleObjects

/-- A style module and its settings. -/
structure Record where
  /-- The name of the sheet. -/
  name : Option String
  /-- What all derived selectors start with. -/
  prepend : Option String
  /-- Selectors that replace the derived ones, by object. -/
  overrides : Dict String
  /-- Selectors that stand for `&`, by object. -/
  combinators : Dict String
  /-- Objects that are left out, in the order they were named. -/
  ignore : List String
  /-- A version that is part of all derived selectors. -/
  version : Option String
  /-- Whether every rule is labelled with the name of its object. -/
  map : Bool
  styles : StyleModule
deriving DecidableEq, Inhabited

/-- The setting that names an object. -/
inductive Setting where
  | overrides
  | combinators
  | ignore
deriving DecidableEq, Repr

/-- A setting for an object that the module does not define. -/
structure DanglingName where
  setting : Setting
  name : String
deriving DecidableEq, Repr

/-- The name of a setting. -/
def Setting.name : Setting → String
  | .overrides => "overrides"
  | .combinators => "combinators"
  | .ignore => "ignore"

/-- The report of a dangling name. -/
def DanglingName.message (d : DanglingName) : String :=
  "'" ++ d.name ++ "' in " ++ d.setting.name ++ " is not a style object in the module"

/-- A text that is not empty. -/
def nonEmpty (s : Option String) : Option String :=
  s.filter (· ≠ "")

namespace Record

/-! ## Building -/

/-- The record of a module without settings. -/
def ofModule (styles : StyleModule) : Record where
  name := none
  prepend := none
  overrides := .empty
  combinators := .empty
  ignore := []
  version := none
  map := false
  styles

/-- Replaces the derived selector of an object. -/
def withOverride (r : Record) (object selector : String) : Record :=
  { r with overrides := r.overrides.insert object selector }

/-- Sets the selector that stands for `&` in an object. -/
def withCombinator (r : Record) (object selector : String) : Record :=
  { r with combinators := r.combinators.insert object selector }

/-- Whether an object is left out. -/
def isIgnored (r : Record) (object : String) : Bool :=
  r.ignore.contains object

/-- Leaves an object out. -/
def withIgnored (r : Record) (object : String) : Record :=
  if r.isIgnored object then r else { r with ignore := r.ignore ++ [object] }

/-! ## Effective settings -/

/-- The prefix of derived selectors, if there is one. -/
def effectivePrepend (r : Record) : Option String :=
  nonEmpty r.prepend

/-- The version, if there is one. -/
def effectiveVersion (r : Record) : Option String :=
  nonEmpty r.version

/-- The selector that replaces the derived one of an object. -/
def overrideFor (r : Record) (object : String) : Option String :=
  nonEmpty (r.overrides.get? object)

/-- The selector given for `&` in an object. -/
def combinatorFor (r : Record) (object : String) : Option String :=
  nonEmpty (r.combinators.get? object)

/-- The objects that are compiled, by ascending name. -/
def compiled (r : Record) : List (String × Declaration) :=
  r.styles.entries.filter fun e => !r.isIgnored e.1

/-! ## Dangling names -/

/-- All names that settings are given for. -/
def settingNames (r : Record) : List DanglingName :=
  r.overrides.names.map (⟨.overrides, ·⟩) ++ r.combinators.names.map (⟨.combinators, ·⟩) ++
    r.ignore.map (⟨.ignore, ·⟩)

/-- The names in settings that the module does not define. -/
def dangling (r : Record) : List DanglingName :=
  r.settingNames.filter fun d => !r.styles.has d.name

/-- The listed names are those used in a setting and missing from the module. -/
theorem mem_dangling {r : Record} {d : DanglingName} :
    d ∈ r.dangling ↔ d ∈ r.settingNames ∧ r.styles.has d.name = false := by
  simp [dangling]

end Record

/-- One record or a sequence of records. -/
inductive RecordSet where
  | one (record : Record)
  | many (records : List Record)
deriving DecidableEq, Inhabited

namespace RecordSet

/-- The records in order. -/
def toList : RecordSet → List Record
  | one record => [record]
  | many records => records

/-- The number of records. -/
def size (s : RecordSet) : Nat :=
  s.toList.length

/-- Whether there are no records. -/
def isEmpty (s : RecordSet) : Bool :=
  s.toList.isEmpty

end RecordSet

end StyleObjects
