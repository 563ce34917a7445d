import StyleObjects.Proofs.SourceItems

/-!
# Tags land on their objects

The settings in the comments of a source end up in its record: those of an object under its name,
and those of the whole file in the record itself.

Main results:

- `TagComment.addObject_parse_body`: what the comment of one object adds to a record.
- `foldl_addComment`: what the comments of some objects add.
- `extractWith_sourceText`: the settings of the record are those of the comments.
-/

namespace StyleObjects

open Pattern SourceItem

variable {tags : Tags} {items : List SourceItem}

/-! ## Settings of an object -/

/-- The comment of an item is that of its object. -/
theorem commentOf_eq {name : String} {c : Option TagComment} (h : WellTagged tags items)
    (hmem : object name c ∈ items) : commentOf items name = c := by
  obtain ⟨before, after, rfl⟩ := List.append_of_mem hmem
  have hbefore : before.find? (·.name? = some name) = none := by
    rw [List.find?_eq_none]
    intro i hi hname
    cases i with
    | object other c' =>
      obtain rfl : other = name := by simpa [name?] using hname
      exact h.not_mem_before hi
    | config c' => simp [name?] at hname
  rw [commentOf, List.find?_append, hbefore]
  simp [name?, comment?]

namespace TagComment

/-- A value that was written is not empty. -/
theorem valueOf_ne_empty {c : TagComment} (hc : c.Valid tags) {kind : TagKind}
    (hkind : kind.hasValue = true) {v : String} (hv : c.valueOf kind = some v) : v ≠ "" := by
  obtain ⟨l, hl, rfl⟩ := Option.map_eq_some_iff.1 hv
  have hvalid := hc l (List.mem_of_find?_eq_some hl)
  have hsame : l.kind = kind := by simpa using List.find?_some hl
  have hne := hvalid.hasValue.2 (hsame ▸ hkind)
  intro hempty
  have hnil : [' '].intercalate l.value = [] := by
    rw [TagLine.valueText] at hempty
    simpa using congrArg String.toList hempty
  have hword := hvalid.isWord
  cases hvalue : l.value with
  | nil => exact hne hvalue
  | cons w ws =>
    rw [hvalue] at hnil hword
    have hw := (hword w List.mem_cons_self).1
    cases ws with
    | nil => simp [hw] at hnil
    | cons v ws => simp [hw] at hnil

/-- The value of a tag is read as written. -/
theorem tagValue_parse_body (htags : tags.Distinguished) {c : TagComment} (hc : c.Valid tags)
    (kind : TagKind) (hkind : kind.hasValue = true) (block : CommentBlock) :
    tagValue (DocComment.parse (c.body tags)) (tags.get kind) block = .ok (c.valueOf kind) := by
  have hvalue := value?_parse_body htags hc kind
  unfold tagValue
  split
  · rename_i hempty
    exact absurd rfl (valueOf_ne_empty hc hkind (hvalue.symm.trans hempty))
  · rw [hvalue]
    rfl

/-- Adds the settings in the comment of an object to a record. -/
def addTo (c : TagComment) (r : Record) (name : String) : Record :=
  if c.hasKind .ignore then r.withIgnored name
  else
    let r := (c.valueOf .override).elim r (r.withOverride name)
    (c.valueOf .combinator).elim r (r.withCombinator name)

/-- What the comment of an object says is added to the record. -/
theorem addObject_parse_body (htags : tags.Distinguished) {c : TagComment} (hc : c.Valid tags)
    (r : Record) (name : String) :
    addObject tags r name (DocComment.parse (c.body tags)) = .ok (c.addTo r name) := by
  have hignore : (DocComment.parse (c.body tags)).has tags.ignore = c.hasKind .ignore :=
    has_parse_body htags hc .ignore
  have hoverride : tagValue (DocComment.parse (c.body tags)) tags.override (.object name) =
      .ok (c.valueOf .override) := tagValue_parse_body htags hc .override rfl _
  have hcombinator : tagValue (DocComment.parse (c.body tags)) tags.combinator (.object name) =
      .ok (c.valueOf .combinator) := tagValue_parse_body htags hc .combinator rfl _
  rw [addObject, hignore, hoverride, addTo]
  by_cases hkind : c.hasKind .ignore = true
  · rw [if_pos hkind, if_pos hkind]
    rfl
  · rw [if_neg hkind, if_neg hkind]
    simp only [hcombinator]
    rfl

end TagComment

/-- Adds the settings in the comment of an object, if it has one, to a record. -/
def addComment (items : List SourceItem) (r : Record) (name : String) : Record :=
  (commentOf items name).elim r (·.addTo r name)

/-- Objects are added with the comments of the source. -/
theorem addObjects_sourceText {search : Matcher} {s : ExtractSettings}
    (htags : s.tags.Distinguished) (h : WellTagged s.tags items)
    (hpattern : s.effectivePattern = usualPattern) {names : List String}
    (hsearch : ∀ name ∈ names, search.FindsFirst (usualFor name))
    (hnames : ∀ name ∈ names, ∃ c, object name c ∈ items) (r : Record) :
    addObjects search s (sourceText s.tags items) names r =
      .ok (names.foldl (addComment items) r) := by
  induction names generalizing r with
  | nil => rfl
  | cons name names ih =>
    obtain ⟨c, hmem⟩ := hnames name List.mem_cons_self
    have hcomment := objectComment_sourceText htags h hmem (hsearch name List.mem_cons_self)
    have hrest := ih (fun n hn => hsearch n (List.mem_cons_of_mem _ hn))
      fun n hn => hnames n (List.mem_cons_of_mem _ hn)
    rw [addObjects, hpattern, hcomment, List.foldl_cons, addComment, commentOf_eq h hmem]
    cases c with
    | none => exact hrest r
    | some c =>
      have hadd := TagComment.addObject_parse_body htags (h.valid _ hmem c rfl) r name
      have hnext := hrest (c.addTo r name)
      simp only [Option.map_some]
      change (do
        addObjects search s (sourceText s.tags items) names (← addObject s.tags r name _)) = _
      rw [hadd]
      exact hnext

/-! ## Settings of a record -/

/-- Whether the comment of an object leaves it out. -/
def isIgnoredIn (items : List SourceItem) (name : String) : Bool :=
  (commentOf items name).any (·.hasKind .ignore)

/-- The value of a tag in the comment of an object, unless it is left out. -/
def settingOf (items : List SourceItem) (kind : TagKind) (name : String) : Option String :=
  if isIgnoredIn items name then none else (commentOf items name).bind (·.valueOf kind)

/-- Whether a record has the settings that the comments of a source give, and no others. -/
structure Record.Carries (r : Record) (items : List SourceItem) (s : ExtractSettings)
    (m : StyleModule) : Prop where
  name : r.name = s.name
  version : r.version = nonEmpty s.version
  prepend : r.prepend = ((configOf items).bind (·.valueOf .prepend)).or (nonEmpty s.prepend)
  map : r.map = ((configOf items).any (·.hasKind .map) || s.map)
  styles : r.styles = m
  ignore : r.ignore = m.names.filter (isIgnoredIn items)
  overrides : ∀ name, r.overrides.get? name =
    if name ∈ m.names then settingOf items .override name else none
  combinators : ∀ name, r.combinators.get? name =
    if name ∈ m.names then settingOf items .combinator name else none

/-- Adds a name to others, unless it is among them or does not pass a test. -/
def addName (keep : String → Bool) (names : List String) (name : String) : List String :=
  if keep name && !names.contains name then names ++ [name] else names

/-- Binds a name to its value, if it has one. -/
def bindName (value : String → Option String) (d : Dict String) (name : String) : Dict String :=
  (value name).elim d (d.insert name)

/-- The comment of an object changes its own settings alone. -/
theorem addComment_eq (r : Record) (name : String) :
    addComment items r name =
      { r with
        overrides := bindName (settingOf items .override) r.overrides name
        combinators := bindName (settingOf items .combinator) r.combinators name
        ignore := addName (isIgnoredIn items) r.ignore name } := by
  unfold addComment bindName addName settingOf isIgnoredIn
  cases commentOf items name with
  | none => rfl
  | some c =>
    simp only [Option.elim_some, Option.any_some, Option.bind_some, TagComment.addTo]
    by_cases hignore : c.hasKind .ignore = true
    · by_cases hname : r.isIgnored name = true
      · have hmem : r.ignore.contains name = true := hname
        simp only [hignore, Record.withIgnored, hname, hmem]
        rfl
      · have hmem : ¬ r.ignore.contains name = true := hname
        simp only [hignore, Record.withIgnored, hname, hmem]
        rfl
    · simp only [hignore]
      cases c.valueOf .override <;> cases c.valueOf .combinator <;> rfl

/-- A run over some objects binds each kind of setting for them. -/
theorem foldl_addComment (names : List String) (r : Record) :
    names.foldl (addComment items) r =
      { r with
        overrides := names.foldl (bindName (settingOf items .override)) r.overrides
        combinators := names.foldl (bindName (settingOf items .combinator)) r.combinators
        ignore := names.foldl (addName (isIgnoredIn items)) r.ignore } := by
  induction names generalizing r with
  | nil => rfl
  | cons name names ih => rw [List.foldl_cons, ih, addComment_eq]; rfl

/-- After binding some names, each of them has its value, and the others what they had. -/
theorem get?_foldl_bindName (value : String → Option String) (names : List String)
    (d : Dict String) (name : String) :
    (names.foldl (bindName value) d).get? name =
      (if name ∈ names then value name else none).or (d.get? name) := by
  induction names generalizing d with
  | nil => simp
  | cons first names ih =>
    rw [List.foldl_cons, ih, bindName]
    by_cases hfirst : first = name
    · subst hfirst
      cases value first <;> by_cases hmem : first ∈ names <;> simp [hmem]
    · have hother : ¬ name = first := fun heq => hfirst heq.symm
      cases value first <;> simp [hfirst, hother]

/-- Names that pass a test are collected in order. -/
theorem foldl_addName (keep : String → Bool) (before : List String) {names : List String}
    (hnodup : (before ++ names).Nodup) :
    names.foldl (addName keep) (before.filter keep) = (before ++ names).filter keep := by
  induction names generalizing before with
  | nil => simp
  | cons name names ih =>
    have hnew : name ∉ before :=
      fun hmem => (List.nodup_append.1 hnodup).2.2 name hmem name List.mem_cons_self rfl
    have hadd : addName keep (before.filter keep) name = (before ++ [name]).filter keep := by
      by_cases hkeep : keep name = true
      · simp [addName, hkeep, hnew]
      · simp [addName, hkeep]
    have hsplit : before ++ name :: names = before ++ [name] ++ names := by simp
    rw [hsplit] at hnodup ⊢
    rw [List.foldl_cons, hadd, ih _ hnodup]

/-- No two objects of a module have the same name. -/
theorem nodup_names (m : StyleModule) : m.names.Nodup := by
  refine (Dict.names_ascending m.objects).imp ?_
  rintro name _ hlt rfl
  exact String.lt_irrefl name hlt

/-- The record of a module with the settings of the whole file. -/
def fileRecord (items : List SourceItem) (s : ExtractSettings) (m : StyleModule) : Record :=
  { Record.ofModule m with
    name := s.name
    prepend := ((configOf items).bind (·.valueOf .prepend)).or (nonEmpty s.prepend)
    version := nonEmpty s.version
    map := (configOf items).any (·.hasKind .map) || s.map }

/-- The settings of a file are those of its first config comment. -/
theorem baseRecord_sourceText {s : ExtractSettings} (htags : s.tags.Distinguished)
    (h : WellTagged s.tags items) (m : StyleModule) :
    baseRecord s ((configOf items).map fun c => DocComment.parse (c.body s.tags)) m =
      .ok (fileRecord items s m) := by
  unfold fileRecord
  cases hconfig : configOf items with
  | none => rfl
  | some c =>
    have hc : c.Valid s.tags := by
      obtain ⟨i, hi, hic⟩ := List.exists_of_findSome?_eq_some hconfig
      cases i with
      | object name comment => cases hic
      | config comment => exact h.valid _ hi c hic
    have hprepend : tagValue (DocComment.parse (c.body s.tags)) s.tags.prepend .config =
        .ok (c.valueOf .prepend) := TagComment.tagValue_parse_body htags hc .prepend rfl _
    have hmap : (DocComment.parse (c.body s.tags)).has s.tags.map = c.hasKind .map :=
      TagComment.has_parse_body htags hc .map
    simp only [baseRecord, Option.map_some, hprepend, Option.any_some, hmap]
    rfl

/-- The settings of the record are those that the comments give. -/
theorem extractWith_sourceText {search : Matcher} {s : ExtractSettings} {m : StyleModule}
    (htags : s.tags.Distinguished) (h : WellTagged s.tags items)
    (hpattern : s.effectivePattern = usualPattern)
    (hsearch : ∀ name ∈ m.names, search.FindsFirst (usualFor name))
    (hnames : ∀ name ∈ m.names, ∃ c, object name c ∈ items) :
    ∃ r, extractWith search (String.ofList (sourceText s.tags items)) m s = .ok r ∧
      r.Carries items s m := by
  have hplaceholder : Text.isInfix placeholder.toList s.effectivePattern.toList = true := by
    rw [hpattern]
    decide +kernel
  refine ⟨m.names.foldl (addComment items) (fileRecord items s m), ?_, ?_⟩
  · rw [extractWith, String.toList_ofList, hplaceholder, fileConfig_sourceText htags h]
    change (do
      let r ← baseRecord s
        ((configOf items).map fun c : TagComment => DocComment.parse (c.body s.tags)) m
      addObjects search s (sourceText s.tags items) m.names r) = _
    rw [baseRecord_sourceText htags h]
    exact addObjects_sourceText htags h hpattern hsearch hnames _
  · have hget (kind : TagKind) (name : String) :
        (m.names.foldl (bindName (settingOf items kind)) .empty).get? name =
          if name ∈ m.names then settingOf items kind name else none := by
      rw [get?_foldl_bindName, Dict.get?_empty, Option.or_none]
    rw [foldl_addComment]
    exact ⟨rfl, rfl, rfl, rfl, rfl,
      foldl_addName (isIgnoredIn items) [] (nodup_names m),
      hget .override, hget .combinator⟩

/-- The usual tags can be told apart. -/
theorem Tags.distinguished_usual : Tags.usual.Distinguished where
  isTag := by
    intro kind
    cases kind <;> decide +kernel
  distinct := by
    intro kind other
    cases kind <;> cases other <;> decide +kernel

/-- Two objects with comments, one without, and the settings of the file among them. -/
def sampleItems : List SourceItem :=
  [object "card" (some ⟨.multiLine, [⟨.override, [['.', 'c']]⟩, ⟨.combinator, [['d'], ['e']]⟩]⟩),
    object "cardTitle" none, config ⟨.oneLine, [⟨.config, []⟩, ⟨.prepend, [['p']]⟩]⟩,
    object "old" (some ⟨.oneLine, [⟨.ignore, []⟩]⟩)]

/-- The module of the three objects. -/
def sampleModule : StyleModule :=
  .ofList [("card", .nil), ("cardTitle", .nil), ("old", .nil)]

theorem names_sampleModule : sampleModule.names = ["card", "cardTitle", "old"] := by
  decide +kernel

theorem extractWith_sourceText_sample :
    ∃ r, extractWith searchPattern
        (String.ofList (sourceText ExtractSettings.empty.tags sampleItems)) sampleModule .empty =
          .ok r ∧
      r.Carries sampleItems .empty sampleModule := by
  have hsearch : ∀ name ∈ sampleModule.names, Matcher.FindsFirst searchPattern (usualFor name) := by
    rw [names_sampleModule]
    intro name hname
    exact findsFirst_searchPattern (by revert name; decide +kernel)
  have hnames : ∀ name ∈ sampleModule.names, ∃ c, object name c ∈ sampleItems := by
    rw [names_sampleModule]
    intro name hname
    simp only [List.mem_cons, List.not_mem_nil, or_false] at hname
    rcases hname with rfl | rfl | rfl
    · exact ⟨_, .head _⟩
    · exact ⟨_, .tail _ (.head _)⟩
    · exact ⟨_, .tail _ (.tail _ (.tail _ (.head _)))⟩
  exact extractWith_sourceText Tags.distinguished_usual (by decide +kernel) (by decide +kernel)
    hsearch hnames

/-- The usual tags, with another one for overrides. -/
def exportTags : Tags :=
  Tags.usual.rename .override "@export"

/-- A tag that makes a declaration of its value is read as one. -/
theorem extract_declaring_tag :
    exportTags.Distinguished ∧
      ¬ declarationWords <:+: Text.spaced ["const".toList, "card".toList] ∧
      sourceText exportTags
        [object "foo" (some ⟨.oneLine, [⟨.override, ["const".toList, "card".toList]⟩]⟩),
          object "card" none] =
        "/** @export const card */\nexport const foo = {};\n\nexport const card = {};\n\n".toList ∧
      extract "/** @export const card */\nexport const foo = {};\n\nexport const card = {};\n\n"
          (.ofList [("card", .nil), ("foo", .nil)])
          { ExtractSettings.empty with tags := exportTags } =
        .error (.unterminated (.object "card") 1) := by
  refine ⟨⟨?_, ?_⟩, by decide +kernel, by decide +kernel, by decide +kernel⟩
  · intro kind
    cases kind <;> decide +kernel
  · intro kind other
    cases kind <;> cases other <;> decide +kernel

end StyleObjects
