import StyleObjects.Record

/-!
# Settings of an extraction

Which tags are looked for, and how the declaration of an object is found.  Every tag can be renamed
by its kind.
-/

namespace StyleObjects

/-! ## Tags -/

/-- What a tag is for. -/
inductive TagKind where
  /-- Replaces the selector of an object. -/
  | override
  /-- Sets the selector that stands for `&` in an object. -/
  | combinator
  /-- Marks the comment with the settings of the whole file. -/
  | config
  /-- Leaves an object out. -/
  | ignore
  /-- Labels every rule with its object. -/
  | map
  /-- Sets what all derived selectors start with. -/
  | prepend
deriving DecidableEq, Repr

namespace TagKind

/-- All kinds in the order of their names. -/
def all : List TagKind :=
  [override, combinator, config, ignore, map, prepend]

/-- The name of a kind. -/
def name : TagKind → String
  | override => "class"
  | combinator => "combinator"
  | config => "config"
  | ignore => "ignore"
  | map => "map"
  | prepend => "prepend"

/-- The kind of a given name. -/
def ofName? (name : String) : Option TagKind :=
  all.find? fun k => k.name = name

end TagKind

/-- The tag of every kind. -/
structure Tags where
  override : String
  combinator : String
  config : String
  ignore : String
  map : String
  prepend : String
deriving DecidableEq, Repr

namespace Tags

/-- The usual tags. -/
def usual : Tags := ⟨"@class", "@combinator", "@config", "@ignore", "@map", "@prepend"⟩

instance : Inhabited Tags := ⟨usual⟩

/-- The tag of a kind. -/
def get (tags : Tags) : TagKind → String
  | .override => tags.override
  | .combinator => tags.combinator
  | .config => tags.config
  | .ignore => tags.ignore
  | .map => tags.map
  | .prepend => tags.prepend

/-- Gives the tag of a kind another name. -/
def rename (tags : Tags) (kind : TagKind) (tag : String) : Tags :=
  match kind with
  | .override => { tags with override := tag }
  | .combinator => { tags with combinator := tag }
  | .config => { tags with config := tag }
  | .ignore => { tags with ignore := tag }
  | .map => { tags with map := tag }
  | .prepend => { tags with prepend := tag }

end Tags

/-- A name that no kind of tag has. -/
structure UnknownTagKind where
  name : String
deriving DecidableEq, Repr

/-- The report of an unknown kind of tag. -/
def UnknownTagKind.message (e : UnknownTagKind) : String :=
  "unknown tag kind '" ++ e.name ++ "' (expected one of: " ++
    ", ".intercalate (TagKind.all.map TagKind.name) ++ ")"

/-- Gives the tag of a kind, which is named, another name. -/
def Tags.renameNamed (tags : Tags) (kind tag : String) : Except UnknownTagKind Tags :=
  match TagKind.ofName? kind with
  | some k => pure (tags.rename k tag)
  | none => throw ⟨kind⟩

/-! ## Patterns of declarations -/

/-- What stands for the name of an object in the pattern of its declaration. -/
def placeholder : String := "XXXXXX"

/-- The usual pattern of a declaration: a doc comment if there is one, and the declaration of an
exported constant right after it. -/
def usualPattern : String :=
  r"(?:/\*\*[^\n]*\n?(?:[ \t]*\*[^\n]*\n)*)?export const XXXXXX[\s:=]"

/-- The settings of an extraction. -/
structure ExtractSettings where
  name : Option String
  /-- What all derived selectors start with, unless a tag says otherwise. -/
  prepend : Option String
  version : Option String
  map : Bool
  /-- The pattern of a declaration, with the placeholder for the name. -/
  pattern : Option String
  tags : Tags
deriving DecidableEq, Repr

namespace ExtractSettings

/-- No settings. -/
def empty : ExtractSettings := ⟨none, none, none, false, none, .usual⟩

instance : Inhabited ExtractSettings := ⟨empty⟩

/-- The pattern in effect. -/
def effectivePattern (s : ExtractSettings) : String :=
  (nonEmpty s.pattern).getD usualPattern

end ExtractSettings

end StyleObjects
