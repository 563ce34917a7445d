import StyleObjects.CommandLine.Run
import StyleObjects.Proofs.SelectorScope

/-!
# What reports name

A failure is reported from the outside in: first the file that it is about, then what is wrong there.
The report is put together from the reports of the parts, and whatever one of them names can be read
in the whole.

Main results:

- `Mentions.append`: texts that are joined mention what each of them does.
- `ExtractError.mentions_message`, `LoadError.mentions_loadReport`, `WriteError.mentions_message`:
  what the report of a part names.
- `CommandLine.Outcome.mentions_report`: a run that ends with a report has failed, prints nothing,
  and names all that the failure is about.
-/

namespace StyleObjects

/-! ## Texts that mention others -/

/-- Whether a text mentions some others: all of them occur in it. -/
def Mentions (report : String) (names : List String) : Prop :=
  ∀ name ∈ names, OccursIn name report

theorem mentions_nil (report : String) : Mentions report [] := by
  simp [Mentions]

/-- A text mentions itself. -/
theorem mentions_self (name : String) : Mentions name [name] := by
  simp [Mentions, OccursIn]

namespace Mentions

variable {report more : String} {names others : List String}

/-- A text with another in front mentions what it did. -/
theorem before (h : Mentions report names) (front : String) : Mentions (front ++ report) names := by
  intro name hname
  obtain ⟨before, after, hsplit⟩ := h name hname
  exact ⟨front.toList ++ before, after, by simp [← hsplit]⟩

/-- A text with another behind it mentions what it did. -/
theorem behind (h : Mentions report names) (back : String) : Mentions (report ++ back) names := by
  intro name hname
  obtain ⟨before, after, hsplit⟩ := h name hname
  exact ⟨before, after ++ back.toList, by simp [← hsplit]⟩

/-- Texts that are joined mention what each of them does. -/
theorem append (h : Mentions report names) (hmore : Mentions more others) :
    Mentions (report ++ more) (names ++ others) := by
  intro name hname
  rcases List.mem_append.1 hname with hname | hname
  · exact h.behind more name hname
  · exact hmore.before report name hname

end Mentions

/-- A text that is joined with others by a separator occurs in the whole. -/
theorem infix_intercalate {text : List Char} {parts : List (List Char)} (h : text ∈ parts)
    (between : List Char) : text <:+: between.intercalate parts := by
  induction parts with
  | nil => cases h
  | cons part rest ih =>
    cases rest with
    | nil =>
      obtain rfl := List.mem_singleton.1 h
      simp
    | cons next rest =>
      rw [List.intercalate_cons_cons, List.append_assoc]
      rcases List.mem_cons.1 h with rfl | h
      · exact (List.prefix_append text _).isInfix
      · exact (ih h).trans ⟨part ++ between, [], by simp⟩

/-- A list of texts with a separator mentions each of them. -/
theorem mentions_intercalate (between : String) (names : List String) :
    Mentions (between.intercalate names) names := by
  intro name hname
  rw [OccursIn, String.toList_intercalate]
  exact infix_intercalate (List.mem_map_of_mem hname) between.toList

/-! ## Reports of the parts -/

/-- What a comment is named by. -/
def CommentBlock.names : CommentBlock → List String
  | config => []
  | object name => [name]

/-- A comment is described with the name of its object. -/
theorem CommentBlock.mentions_describe (block : CommentBlock) :
    Mentions block.describe block.names := by
  cases block with
  | config => exact mentions_nil _
  | object name => exact ((mentions_self name).before _).behind _

/-- What an extraction error is about: the object, and the line, tag or pattern. -/
def ExtractError.names : ExtractError → List String
  | unterminated block line => block.names ++ [toString line]
  | missingValue block tag => tag :: block.names
  | invalidPattern block _ => block.names
  | missingPlaceholder pattern => [pattern, placeholder]

/-- An extraction error is reported with all that it is about. -/
theorem ExtractError.mentions_message (e : ExtractError) : Mentions e.message e.names := by
  cases e with
  | unterminated block line =>
    exact (((block.mentions_describe.before _).behind _).append (mentions_self _)).behind _
  | missingValue block tag =>
    exact (((mentions_self tag).before _).behind _).append block.mentions_describe
  | invalidPattern block pattern => exact block.mentions_describe.before _
  | missingPlaceholder pattern =>
    exact ((((mentions_self pattern).before _).behind _).append (mentions_self _)).behind _

/-- What a record is named by. -/
def RecordLabel.names : RecordLabel → List String
  | named name => [name]
  | position index => [toString index]
  | unnamed => []

/-- A record is described by its name, or else by its position. -/
theorem RecordLabel.mentions_describe (label : RecordLabel) :
    Mentions label.describe label.names := by
  cases label with
  | named name => exact ((mentions_self name).before _).behind _
  | position index => exact (mentions_self _).before _
  | unnamed => exact mentions_nil _

/-- What a shape error is about: what was found and expected, or the type or field. -/
def ShapeError.names (format : Format) : ShapeError → List String
  | mismatch found expected => [found.describe format, expected.describe]
  | noVariant type => [type.name]
  | taggedValue => []
  | excessItems count => [toString count]
  | repeatedField name => [name]

/-- A shape error is reported with all that it is about, in the words of the format. -/
theorem ShapeError.mentions_message (format : Format) (e : ShapeError) :
    Mentions (e.message format) (e.names format) := by
  cases e with
  | mismatch found expected =>
    exact (((mentions_self _).before _).behind _).append (mentions_self _)
  | noVariant type => exact (mentions_self _).before _
  | taggedValue => exact mentions_nil _
  | excessItems count => exact ((mentions_self _).before _).behind _
  | repeatedField name => exact ((mentions_self name).before _).behind _

/-- What a failure to load is about: the format that the text should have been in, with what does not
fit, or the record. -/
def LoadError.names : LoadError → List String
  | notFormat format => [format.invalidRecord]
  | severalDocuments => [Format.yaml.invalidRecord]
  | repetition => [Format.yaml.invalidRecord]
  | shape format e => format.invalidRecord :: e.names format
  | missingModule label => label.names

/-- A failure to load is reported with all that it is about, even if there is no more to say than
that the text does not follow its format. -/
theorem LoadError.mentions_loadReport (e : LoadError) :
    Mentions (CommandLine.loadReport e) e.names := by
  cases e with
  | notFormat format => exact mentions_self _
  | severalDocuments => exact (mentions_self _).behind _
  | repetition => exact (mentions_self _).behind _
  | shape format e => exact ((mentions_self _).behind _).append (e.mentions_message format)
  | missingModule label => exact label.mentions_describe.before _

/-- What a failure to write is about: the name of a sheet, or a path with the reason of the system. -/
def WriteError.names : WriteError → List String
  | badName e => [e.name]
  | directory path e => [path, e.message]
  | file path e => [path, e.message]

/-- A failure to write is reported with all that it is about. -/
theorem WriteError.mentions_message (e : WriteError) : Mentions e.message e.names := by
  cases e with
  | badName e => exact ((mentions_self _).before _).behind _
  | directory path e =>
    exact (((mentions_self path).before _).behind _).append (mentions_self e.message)
  | file path e =>
    exact (((mentions_self path).before _).behind _).append (mentions_self e.message)

/-- What an unknown kind of tag is about: its name, and the kinds that there are. -/
def UnknownTagKind.names (e : UnknownTagKind) : List String :=
  e.name :: TagKind.all.map TagKind.name

/-- An unknown kind of tag is reported together with all kinds that there are. -/
theorem UnknownTagKind.mentions_message (e : UnknownTagKind) : Mentions e.message e.names :=
  ((((mentions_self e.name).before _).behind _).append (mentions_intercalate _ _)).behind _

/-! ## The report of a run -/

namespace CommandLine

/-- What a failure is about: the file, and then what is wrong there. -/
def Failure.names : Failure → List String
  | read path e => [path, e.message]
  | records path e => path :: e.names
  | module path => [path]
  | extract path e => path :: e.names
  | tagKind e => e.names
  | write e => e.names

/-- A failure is reported with all that it is about. -/
theorem Failure.mentions_message (e : Failure) : Mentions e.message e.names := by
  cases e with
  | read path e =>
    exact (((mentions_self path).before _).behind _).append (mentions_self e.message)
  | records path e =>
    exact (((mentions_self path).before _).behind _).append e.mentions_loadReport
  | module path => exact (mentions_self path).before _
  | extract path e =>
    exact (((mentions_self path).before _).behind _).append e.mentions_message
  | tagKind e => exact e.mentions_message
  | write e => exact e.mentions_message

/-- A run that ends with a report has failed.  Nothing is printed but the report, which names all
that the failure is about. -/
theorem Outcome.mentions_report {result : Except Failure String} {report : String}
    (h : (ofResult result).report = some report) :
    ∃ e, result = .error e ∧ ofResult result = ⟨1, "", some report⟩ ∧ Mentions report e.names := by
  cases result with
  | ok output => cases h
  | error e =>
    obtain rfl := Option.some.inj h
    exact ⟨e, rfl, rfl, e.mentions_message.before _⟩

end CommandLine

end StyleObjects
