import StyleObjects.Extract.DocComment
import StyleObjects.Extract.Settings
import StyleObjects.Pattern.Reading
import StyleObjects.Text.Search

/-!
# Extracting settings from a source

Style objects are declared in a source file, and tags in the doc comments of the file are the
settings of their record.  The first comment with the config tag holds for the whole file; the
comment of an object is the first one in the range that the pattern of its declaration matches.  How
patterns are matched is a parameter.

Main results:

- `tagValue_eq_some`: a value that is read is not empty.
-/

namespace StyleObjects

/-! ## Errors -/

/-- The comment that an error was found in. -/
inductive CommentBlock where
  /-- The comment with the settings of the whole file. -/
  | config
  /-- The comment of an object. -/
  | object (name : String)
deriving DecidableEq, Repr

/-- A comment in words. -/
def CommentBlock.describe : CommentBlock → String
  | config => "the config block"
  | object name => "the comment block of '" ++ name ++ "'"

/-- Why no settings can be extracted. -/
inductive ExtractError where
  /-- A doc comment is never closed. -/
  | unterminated (block : CommentBlock) (line : Nat)
  /-- A tag has no value but needs one. -/
  | missingValue (block : CommentBlock) (tag : String)
  /-- The pattern is not valid once the name is filled in. -/
  | invalidPattern (block : CommentBlock) (pattern : String)
  /-- The pattern has no place for the name. -/
  | missingPlaceholder (pattern : String)
deriving DecidableEq, Repr

/-- The report of an error. -/
def ExtractError.message : ExtractError → String
  | unterminated block line =>
    "unterminated doc comment in " ++ block.describe ++ " (line " ++ toString line ++ ")"
  | missingValue block tag => "tag " ++ tag ++ " needs a value in " ++ block.describe
  | invalidPattern block _ => "invalid style pattern for " ++ block.describe
  | missingPlaceholder pattern =>
    "style pattern '" ++ pattern ++ "' has no " ++ placeholder ++ " placeholder"

/-! ## Finding declarations -/

/-- What a pattern finds in a source. -/
inductive SearchResult where
  | notPattern
  | notFound
  | found (range : Range)
deriving DecidableEq, Repr

/-- A way of finding the range that a pattern matches in a source. -/
abbrev Matcher := List Char → List Char → SearchResult

/-- Finds the first match of a pattern. -/
def searchPattern : Matcher := fun pattern source =>
  match Pattern.parse? pattern with
  | none => .notPattern
  | some x => (x.find source).elim .notFound .found

/-- The pattern of the declaration of an object. -/
def declarationPattern (pattern name : String) : String :=
  String.ofList
    (Text.replace placeholder.toList (Pattern.escape name.toList) pattern.toList)

/-! ## Comments -/

/-- The number of the line of an offset, from one. -/
def lineOf (source : List Char) (offset : Nat) : Nat :=
  (source.take offset).count '\n' + 1

/-- The doc comments of the part of a source in a range. -/
def commentsIn (source : List Char) (range : Range) (block : CommentBlock) :
    Except ExtractError (List DocComment) :=
  match DocComment.bodies (range.text source) with
  | .ok bodies => pure (bodies.map DocComment.parse)
  | .error offset => throw (.unterminated block (lineOf source (range.start + offset)))

/-- The comment with the settings of the whole file, if there is one. -/
def fileConfig (tags : Tags) (source : List Char) : Except ExtractError (Option DocComment) := do
  let comments ← commentsIn source ⟨0, source.length⟩ .config
  pure (comments.find? (·.has tags.config))

/-- The comment of an object, if there is one. -/
def objectComment (search : Matcher) (pattern : String) (source : List Char) (name : String) :
    Except ExtractError (Option DocComment) :=
  let filled := declarationPattern pattern name
  match search filled.toList source with
  | .notPattern => throw (.invalidPattern (.object name) filled)
  | .notFound => pure none
  | .found range => return (← commentsIn source range (.object name)).head?

/-- The value of a tag, if it occurs.  A tag that occurs must have a value. -/
def tagValue (comment : DocComment) (tag : String) (block : CommentBlock) :
    Except ExtractError (Option String) :=
  match comment.value? tag with
  | some "" => throw (.missingValue block tag)
  | value => pure value

/-- A value that is read is not empty. -/
theorem tagValue_eq_some {comment : DocComment} {tag value : String} {block : CommentBlock}
    (h : tagValue comment tag block = .ok (some value)) : value ≠ "" := by
  unfold tagValue at h
  split at h
  · cases h
  · rename_i hne
    rintro rfl
    exact hne (Except.ok.inj h)

/-! ## Records -/

/-- The record of a module with the settings of the whole file. -/
def baseRecord (s : ExtractSettings) (config : Option DocComment) (styles : StyleModule) :
    Except ExtractError Record := do
  let prepend ← match config with
    | some comment => tagValue comment s.tags.prepend .config
    | none => pure none
  pure { Record.ofModule styles with
    name := s.name
    prepend := prepend.or (nonEmpty s.prepend)
    version := nonEmpty s.version
    map := config.any (·.has s.tags.map) || s.map }

/-- Adds the settings of an object to a record. -/
def addObject (tags : Tags) (r : Record) (name : String) (comment : DocComment) :
    Except ExtractError Record := do
  if comment.has tags.ignore then pure (r.withIgnored name)
  else
    let override ← tagValue comment tags.override (.object name)
    let r := override.elim r (r.withOverride name)
    let combinator ← tagValue comment tags.combinator (.object name)
    pure (combinator.elim r (r.withCombinator name))

/-- Adds the settings of some objects to a record, one after the other. -/
def addObjects (search : Matcher) (s : ExtractSettings) (source : List Char) :
    List String → Record → Except ExtractError Record
  | [], r => pure r
  | name :: rest, r => do
    match ← objectComment search s.effectivePattern source name with
    | none => addObjects search s source rest r
    | some comment => addObjects search s source rest (← addObject s.tags r name comment)

/-- Builds the record of a module from a source, with a way of matching patterns. -/
def extractWith (search : Matcher) (source : String) (styles : StyleModule)
    (s : ExtractSettings) : Except ExtractError Record := do
  let source := source.toList
  if !Text.isInfix placeholder.toList s.effectivePattern.toList then
    throw (.missingPlaceholder s.effectivePattern)
  let config ← fileConfig s.tags source
  let r ← baseRecord s config styles
  addObjects search s source styles.names r

/-- Builds the record of a module from a source. -/
def extract (source : String) (styles : StyleModule) (s : ExtractSettings) :
    Except ExtractError Record :=
  extractWith searchPattern source styles s

end StyleObjects
