import StyleObjects.Proofs.CommentTags
import StyleObjects.Proofs.InertSettings
import StyleObjects.Proofs.Readback

/-!
# Records that are extracted

A record that is extracted from a source is well formed, whatever the source says and whatever the
matcher finds in it.  The objects are visited by ascending name, and each adds to the settings of
its own name only; this is what the settings so far keep as an invariant.

Main results:

- `isTagValue_of_value?`: what the value of a tag looks like.
- `Settled.addObject`: what one object adds keeps the settings in order.
- `addObjects_settled`: so does what all objects add.
- `extractWith_wellFormed`: every record that is extracted is well formed.
-/

namespace StyleObjects

open DocComment

/-! ## Values of tags -/

/-- What the value of a tag looks like. -/
structure IsTagValue (v : String) : Prop where
  nonempty : v ≠ ""
  /-- It consists of its words, with single spaces in between. -/
  spaced : [' '].intercalate (Text.words v.toList) = v.toList
  trimmed : Text.trim v.toList = v.toList
  /-- None of its words opens a tag. -/
  noTag : ∀ w ∈ Text.words v.toList, isTag w = false

namespace Text

/-- Joined words do not start with a blank. -/
theorem isBlank_head?_intercalate {ws : List (List Char)} (h : ∀ w ∈ ws, IsWord w) :
    ∀ c ∈ ([' '].intercalate ws).head?, isBlank c = false := by
  cases ws with
  | nil => simp
  | cons w ws =>
    obtain ⟨hne, hblank⟩ := h w List.mem_cons_self
    intro c hc
    cases w with
    | nil => exact absurd rfl hne
    | cons d w =>
      have hd : ([' '].intercalate ((d :: w) :: ws)).head? = some d := by cases ws <;> simp
      obtain rfl := Option.some.inj (hd.symm.trans hc)
      exact hblank d List.mem_cons_self

/-- Joined words do not end with a blank. -/
theorem isBlank_getLast?_intercalate {ws : List (List Char)} (h : ∀ w ∈ ws, IsWord w) :
    ∀ c ∈ ([' '].intercalate ws).getLast?, isBlank c = false := by
  induction ws with
  | nil => simp
  | cons w ws ih =>
    obtain ⟨hne, hblank⟩ := h w List.mem_cons_self
    have hrest := ih fun v hv => h v (List.mem_cons_of_mem _ hv)
    cases ws with
    | nil =>
      intro c hc
      have hlast : c ∈ w.getLast? := by simpa using hc
      exact hblank c (List.mem_of_getLast? hlast)
    | cons v ws =>
      have hsome : [' '].intercalate (v :: ws) ≠ [] := by
        have hv := (h v (List.mem_cons_of_mem _ List.mem_cons_self)).1
        cases ws <;> simp [hv]
      intro c hc
      have hsplit : [' '].intercalate (w :: v :: ws) = w ++ ' ' :: [' '].intercalate (v :: ws) := by
        simp
      rw [hsplit, List.getLast?_append_of_ne_nil _ (List.cons_ne_nil _ _),
        List.getLast?_cons_of_ne_nil hsome] at hc
      exact hrest c hc

end Text

/-- Joined words that open no tag are the value of a tag. -/
theorem isTagValue_intercalate {ws : List (List Char)} (hne : ws ≠ [])
    (h : ∀ w ∈ ws, Text.IsWord w ∧ isTag w = false) :
    IsTagValue (String.ofList ([' '].intercalate ws)) := by
  have hword : ∀ w ∈ ws, Text.IsWord w := fun w hw => (h w hw).1
  have hwords := Text.words_intercalate hword
  refine ⟨?_, ?_, ?_, ?_⟩
  · intro hempty
    have hjoined : [' '].intercalate ws = [] := by simpa using congrArg String.toList hempty
    rw [hjoined] at hwords
    exact hne hwords.symm
  · rw [String.toList_ofList, hwords]
  · rw [String.toList_ofList]
    exact Text.trim_eq_self (Text.isBlank_head?_intercalate hword)
      (Text.isBlank_getLast?_intercalate hword)
  · rw [String.toList_ofList, hwords]
    exact fun w hw => (h w hw).2

/-- What the value of a tag looks like, unless it is empty. -/
theorem isTagValue_of_value? {body : List Char} {tag v : String}
    (h : (parse body).value? tag = some v) (hne : v ≠ "") : IsTagValue v := by
  obtain ⟨before, w, after, hwords, _, _, rfl⟩ := value?_parse_iff.1 h
  refine isTagValue_intercalate (fun hnone => hne ?_) (mem_valueWords hwords)
  rw [hnone]
  rfl

/-- What is read for a tag is the value of a tag. -/
theorem isTagValue_of_tagValue {body : List Char} {tag v : String} {block : CommentBlock}
    (h : tagValue (parse body) tag block = .ok (some v)) : IsTagValue v :=
  isTagValue_of_value? (value?_of_tagValue h) (tagValue_eq_some h)

/-! ## Settings of objects -/

/-- Binding a name adds no other name. -/
theorem Dict.mem_names_insert {α : Type} {d : Dict α} {name other : String} {value : α}
    (h : other ∈ (d.insert name value).names) : other = name ∨ other ∈ d.names := by
  obtain ⟨e, he, rfl⟩ := List.mem_map.1 h
  rcases mem_insertEntry he with rfl | he
  · exact .inl rfl
  · exact .inr (List.mem_map_of_mem he)

/-- What holds of all bindings and of a new one holds after it is added. -/
theorem Dict.forall_mem_insert {α : Type} {d : Dict α} {p : String × α → Prop}
    (h : ∀ e ∈ d.entries, p e) {name : String} {value : α} (hnew : p (name, value)) :
    ∀ e ∈ (d.insert name value).entries, p e := by
  intro e he
  rcases mem_insertEntry he with rfl | he
  · exact hnew
  · exact h e he

/-- What the comment of an object adds to a record: it is ignored, or else has the settings that
have a value. -/
theorem addObject_eq_ok {tags : Tags} {r r' : Record} {name : String} {c : DocComment}
    (h : addObject tags r name c = .ok r') :
    r' = r.withIgnored name ∨
      ∃ override combinator, tagValue c tags.override (.object name) = .ok override ∧
        tagValue c tags.combinator (.object name) = .ok combinator ∧
        r' = (combinator.elim (override.elim r (r.withOverride name))
          ((override.elim r (r.withOverride name)).withCombinator name)) := by
  unfold addObject at h
  split at h
  · exact .inl (Except.ok.inj h).symm
  · simp only [bind_eq_ok_iff] at h
    obtain ⟨override, hoverride, combinator, hcombinator, hr⟩ := h
    exact .inr ⟨override, combinator, hoverride, hcombinator, (Except.ok.inj hr).symm⟩

/-- Whether a record has a setting for a name. -/
def Record.settingFor (r : Record) (name : String) : Prop :=
  name ∈ r.overrides.names ∨ name ∈ r.combinators.names ∨ name ∈ r.ignore

/-- A listed name has a setting. -/
theorem Record.mem_settingNames {r : Record} {d : DanglingName} (h : d ∈ r.settingNames) :
    r.settingFor d.name := by
  simp only [settingNames, List.mem_append, List.mem_map] at h
  rcases h with (⟨name, hname, rfl⟩ | ⟨name, hname, rfl⟩) | ⟨name, hname, rfl⟩
  · exact .inl hname
  · exact .inr (.inl hname)
  · exact .inr (.inr hname)

section Run

variable {search : Matcher} {s : ExtractSettings} {source : List Char}

/-- What the settings of some objects keep, added to those of the whole file. -/
structure Settled (search : Matcher) (s : ExtractSettings) (source : List Char) (file : Record)
    (names : List String) (r : Record) : Prop where
  file_eq : r =
    { file with overrides := r.overrides, combinators := r.combinators, ignore := r.ignore }
  ascending : r.ignore.Pairwise (· < ·)
  apart : ∀ name ∈ r.ignore, name ∉ r.overrides.names ∧ name ∉ r.combinators.names
  overrides : ∀ e ∈ r.overrides.entries, IsTagValue e.2
  combinators : ∀ e ∈ r.combinators.entries, IsTagValue e.2
  named : ∀ name, r.settingFor name → name ∈ names ∧ ∃ body, OwnComment search s source name body

namespace Settled

variable {file r : Record} {names : List String} {name : String}

/-- A record that is settled for some names is so for more of them. -/
theorem mono (h : Settled search s source file names r) (more : List String) :
    Settled search s source file (names ++ more) r :=
  { h with named := fun other hother =>
      ⟨List.mem_append_left _ (h.named other hother).1, (h.named other hother).2⟩ }

/-- An object after all others can be ignored. -/
theorem withIgnored (h : Settled search s source file names r) (hname : name ∈ names)
    (hown : ∃ body, OwnComment search s source name body)
    (hnew : ∀ other, r.settingFor other → other < name) :
    Settled search s source file names (r.withIgnored name) := by
  have hfresh : ¬ r.settingFor name := fun hfor => String.lt_irrefl name (hnew name hfor)
  have hadd : r.withIgnored name = { r with ignore := r.ignore ++ [name] } := by
    rw [Record.withIgnored, Record.isIgnored, if_neg]
    simpa using fun hmem => hfresh (.inr (.inr hmem))
  rw [hadd]
  constructor
  case file_eq => rw [h.file_eq]
  case ascending =>
    refine List.pairwise_append.2 ⟨h.ascending, List.pairwise_singleton _ _, ?_⟩
    intro other hother last hlast
    rw [List.mem_singleton.1 hlast]
    exact hnew other (.inr (.inr hother))
  case apart =>
    intro other hother
    rcases List.mem_append.1 hother with hother | hother
    · exact h.apart other hother
    · rw [List.mem_singleton.1 hother]
      exact ⟨fun hmem => hfresh (.inl hmem), fun hmem => hfresh (.inr (.inl hmem))⟩
  case overrides => exact h.overrides
  case combinators => exact h.combinators
  case named =>
    rintro other (hother | hother | hother)
    · exact h.named other (.inl hother)
    · exact h.named other (.inr (.inl hother))
    · rcases List.mem_append.1 hother with hother | hother
      · exact h.named other (.inr (.inr hother))
      · rw [List.mem_singleton.1 hother]
        exact ⟨hname, hown⟩

/-- An object that is not ignored can be overridden. -/
theorem withOverride (h : Settled search s source file names r) (hname : name ∈ names)
    (hown : ∃ body, OwnComment search s source name body) (hignore : name ∉ r.ignore) {v : String}
    (hv : IsTagValue v) : Settled search s source file names (r.withOverride name v) := by
  constructor
  case file_eq => rw [Record.withOverride, h.file_eq]
  case ascending => exact h.ascending
  case apart =>
    intro other hother
    refine ⟨fun hmem => ?_, (h.apart other hother).2⟩
    rcases Dict.mem_names_insert hmem with rfl | hmem
    · exact hignore hother
    · exact (h.apart other hother).1 hmem
  case overrides => exact Dict.forall_mem_insert h.overrides hv
  case combinators => exact h.combinators
  case named =>
    rintro other (hother | hother)
    · rcases Dict.mem_names_insert hother with rfl | hother
      · exact ⟨hname, hown⟩
      · exact h.named other (.inl hother)
    · exact h.named other (.inr hother)

/-- An object that is not ignored can have a combinator. -/
theorem withCombinator (h : Settled search s source file names r) (hname : name ∈ names)
    (hown : ∃ body, OwnComment search s source name body) (hignore : name ∉ r.ignore) {v : String}
    (hv : IsTagValue v) : Settled search s source file names (r.withCombinator name v) := by
  constructor
  case file_eq => rw [Record.withCombinator, h.file_eq]
  case ascending => exact h.ascending
  case apart =>
    intro other hother
    refine ⟨(h.apart other hother).1, fun hmem => ?_⟩
    rcases Dict.mem_names_insert hmem with rfl | hmem
    · exact hignore hother
    · exact (h.apart other hother).2 hmem
  case overrides => exact h.overrides
  case combinators => exact Dict.forall_mem_insert h.combinators hv
  case named =>
    rintro other (hother | hother | hother)
    · exact h.named other (.inl hother)
    · rcases Dict.mem_names_insert hother with rfl | hother
      · exact ⟨hname, hown⟩
      · exact h.named other (.inr (.inl hother))
    · exact h.named other (.inr (.inr hother))

/-- What one object adds keeps the settings in order, if it comes after all others. -/
theorem addObject (h : Settled search s source file names r) (hafter : ∀ n ∈ names, n < name)
    {body : List Char} (hown : OwnComment search s source name body) {r' : Record}
    (hadd : StyleObjects.addObject s.tags r name (parse body) = .ok r') :
    Settled search s source file (names ++ [name]) r' := by
  -- All settings so far are for names that were visited before.
  have hnew : ∀ other, r.settingFor other → other < name :=
    fun other hother => hafter other (h.named other hother).1
  have hignore : name ∉ r.ignore :=
    fun hmem => String.lt_irrefl name (hnew name (.inr (.inr hmem)))
  have hname : name ∈ names ++ [name] := List.mem_append_right _ (List.mem_singleton_self name)
  have hgrown := h.mono [name]
  rcases addObject_eq_ok hadd with rfl | ⟨override, combinator, hoverride, hcombinator, rfl⟩
  · exact hgrown.withIgnored hname ⟨body, hown⟩ hnew
  · have hfirst : Settled search s source file (names ++ [name])
          (override.elim r (r.withOverride name)) ∧
        (override.elim r (r.withOverride name)).ignore = r.ignore := by
      cases override with
      | none => exact ⟨hgrown, rfl⟩
      | some v =>
        have hv := isTagValue_of_tagValue hoverride
        exact ⟨hgrown.withOverride hname ⟨body, hown⟩ hignore hv, rfl⟩
    cases combinator with
    | none => exact hfirst.1
    | some v =>
      have hv := isTagValue_of_tagValue hcombinator
      exact hfirst.1.withCombinator hname ⟨body, hown⟩ (by rwa [hfirst.2]) hv

end Settled

/-- What all objects add keeps the settings in order. -/
theorem addObjects_settled {file r r' : Record} {earlier names : List String}
    (hpair : (earlier ++ names).Pairwise (· < ·)) (h : Settled search s source file earlier r)
    (hrun : addObjects search s source names r = .ok r') :
    Settled search s source file (earlier ++ names) r' := by
  induction names generalizing earlier r with
  | nil =>
    obtain rfl := Except.ok.inj hrun
    rwa [List.append_nil]
  | cons name names ih =>
    have hsplit : earlier ++ name :: names = earlier ++ [name] ++ names := by simp
    have hafter : ∀ n ∈ earlier, n < name :=
      fun n hn => (List.pairwise_append.1 hpair).2.2 n hn name List.mem_cons_self
    rw [hsplit] at hpair ⊢
    rw [addObjects, bind_eq_ok_iff] at hrun
    obtain ⟨comment, hcomment, hrun⟩ := hrun
    cases comment with
    | none => exact ih hpair (h.mono [name]) hrun
    | some c =>
      obtain ⟨body, hown, rfl⟩ := objectComment_eq_some_iff.1 hcomment
      obtain ⟨next, hadd, hrest⟩ := bind_eq_ok_iff.1 hrun
      exact ih hpair (h.addObject hafter hown hadd) hrest

end Run

/-! ## Settings of the whole file -/

/-- The record of a module with the settings of the whole file.  Its comment may give what derived
selectors start with. -/
def Record.ofFile (s : ExtractSettings) (m : StyleModule) (config : Option DocComment)
    (given : Option String) : Record :=
  { Record.ofModule m with
    name := s.name
    prepend := given.or (nonEmpty s.prepend)
    version := nonEmpty s.version
    map := config.any (·.has s.tags.map) || s.map }

/-- The record before its objects has the settings of the file and the prepend tag of its comment.
-/
theorem baseRecord_eq_ok {s : ExtractSettings} {config : Option DocComment} {m : StyleModule}
    {r : Record} (h : baseRecord s config m = .ok r) :
    ∃ given, (∀ c ∈ config, tagValue c s.tags.prepend .config = .ok given) ∧
      (config = none → given = none) ∧ r = .ofFile s m config given := by
  unfold baseRecord at h
  cases config with
  | none => exact ⟨none, by simp, fun _ => rfl, (Except.ok.inj h).symm⟩
  | some c =>
    obtain ⟨given, hgiven, hr⟩ := bind_eq_ok_iff.1 h
    exact ⟨given, by simp [hgiven], by simp, (Except.ok.inj hr).symm⟩

/-- Nothing is settled before the first object. -/
theorem settled_ofFile (search : Matcher) (s : ExtractSettings) (source : List Char)
    (m : StyleModule) (config : Option DocComment) (given : Option String) :
    Settled search s source (.ofFile s m config given) [] (.ofFile s m config given) where
  file_eq := rfl
  ascending := .nil
  apart := fun _ hname => absurd hname List.not_mem_nil
  overrides := fun _ he => absurd he List.not_mem_nil
  combinators := fun _ he => absurd he List.not_mem_nil
  named := by
    rintro name (hname | hname | hname) <;> exact absurd hname List.not_mem_nil

/-! ## Records -/

/-- Whether a record that was extracted from a source is as it should be. -/
structure Record.WellFormed (r : Record) (search : Matcher) (source : List Char) (m : StyleModule)
    (s : ExtractSettings) : Prop where
  styles : r.styles = m
  name : r.name = s.name
  dangling : r.dangling = []
  ascending : r.ignore.Pairwise (· < ·)
  apart : ∀ name ∈ r.ignore, name ∉ r.overrides.names ∧ name ∉ r.combinators.names
  overrides : ∀ e ∈ r.overrides.entries, IsTagValue e.2
  combinators : ∀ e ∈ r.combinators.entries, IsTagValue e.2
  prepend : r.prepend ≠ some ""
  version : r.version ≠ some ""
  /-- What derived selectors start with, if the comment for the whole file says so. -/
  config : ∀ body v, ConfigComment s.tags source body →
    (parse body).value? s.tags.prepend = some v → r.prepend = some v ∧ IsTagValue v
  /-- Settings are given for objects of the module, in the range of whose declaration a doc comment
  was found. -/
  named : ∀ name, r.settingFor name →
    name ∈ m.names ∧ ∃ body, OwnComment search s source name body

/-- The steps of an extraction that gives a record. -/
theorem extractWith_eq_ok {search : Matcher} {source : String} {m : StyleModule}
    {s : ExtractSettings} {r : Record} (h : extractWith search source m s = .ok r) :
    ∃ config file, fileConfig s.tags source.toList = .ok config ∧
      baseRecord s config m = .ok file ∧
      addObjects search s source.toList m.names file = .ok r := by
  unfold extractWith at h
  simp only at h
  split at h
  · cases h
  · obtain ⟨config, hconfig, hrest⟩ := bind_eq_ok_iff.1 h
    obtain ⟨file, hfile, hrun⟩ := bind_eq_ok_iff.1 hrest
    exact ⟨config, file, hconfig, hfile, hrun⟩

/-- Every record that is extracted is well formed. -/
theorem extractWith_wellFormed {search : Matcher} {source : String} {m : StyleModule}
    {s : ExtractSettings} {r : Record} (h : extractWith search source m s = .ok r) :
    r.WellFormed search source.toList m s := by
  obtain ⟨config, file, hconfig, hfile, hrun⟩ := extractWith_eq_ok h
  obtain ⟨given, hgiven, hnone, rfl⟩ := baseRecord_eq_ok hfile
  have hsettled := addObjects_settled (Dict.names_ascending m.objects)
    (settled_ofFile search s source.toList m config given) hrun
  have hstyles : r.styles = m := congrArg Record.styles hsettled.file_eq
  have hprepend : r.prepend = given.or (nonEmpty s.prepend) :=
    congrArg Record.prepend hsettled.file_eq
  constructor
  case styles => exact hstyles
  case name => exact congrArg Record.name hsettled.file_eq
  case dangling =>
    rw [Record.dangling, List.filter_eq_nil_iff]
    intro d hd
    have hmem := (hsettled.named d.name (Record.mem_settingNames hd)).1
    rw [hstyles, StyleModule.has, Dict.contains_iff_mem_names.2 hmem]
    simp
  case ascending => exact hsettled.ascending
  case apart => exact hsettled.apart
  case overrides => exact hsettled.overrides
  case combinators => exact hsettled.combinators
  case prepend =>
    rw [hprepend]
    cases config with
    | none =>
      rw [hnone rfl]
      exact nonEmpty_ne_some_empty s.prepend
    | some c =>
      cases given with
      | none => exact nonEmpty_ne_some_empty s.prepend
      | some v =>
        have hne := tagValue_eq_some (hgiven c rfl)
        simpa using hne
  case version =>
    have hversion : r.version = nonEmpty s.version := congrArg Record.version hsettled.file_eq
    rw [hversion]
    exact nonEmpty_ne_some_empty s.version
  case config =>
    intro body v hbody hv
    have hread := fileConfig_eq_some_iff.2 ⟨body, hbody, rfl⟩
    obtain rfl := Except.ok.inj (hconfig.symm.trans hread)
    have hvalue := hgiven _ rfl
    obtain rfl : given = some v := (value?_of_tagValue hvalue).symm.trans hv
    exact ⟨by rw [hprepend, Option.some_or], isTagValue_of_tagValue hvalue⟩
  case named => exact hsettled.named

/-- A comment for the whole file, one of an object that is overridden, and one of an object that is
left out. -/
def extractedSource : String :=
  "/** @config @prepend p */\n/**\n * A button.\n * @class  .b\n *   .c\n */\n" ++
    "export const a = {};\n/** @ignore @class */\nexport const b = {};\n"

/-- What they say. -/
def extractedSample : Record :=
  { Record.ofModule (.ofList [("a", .nil), ("b", .nil)]) with
    prepend := some "p"
    overrides := .ofList [("a", ".b .c")]
    ignore := ["b"] }

theorem extractWith_wellFormed_sample :
    extractWith searchPattern extractedSource extractedSample.styles .empty =
      .ok extractedSample ∧
    extractedSample.WellFormed searchPattern extractedSource.toList extractedSample.styles
      .empty := by
  have hextract : extractWith searchPattern extractedSource extractedSample.styles .empty =
      .ok extractedSample := by
    decide +kernel
  exact ⟨hextract, extractWith_wellFormed hextract⟩

end StyleObjects
