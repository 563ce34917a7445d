import StyleObjects.Proofs.Entry
import StyleObjects.Proofs.Layout
import StyleObjects.Proofs.WordDashes

/-!
# Texts without line feeds

A line of a sheet is put together from names, keys, values and settings.  If none of these holds a
line feed, then neither does the line: prefixes, kebab case, numbers and the composition of
selectors add none.

Main results:

- `kebabCase_oneLine`, `formatNumber_oneLine`: names and numbers are written without line feeds.
- `Declaration.rules_unbroken`: the rules of a declaration have none.
- `Record.Unbroken.blocks`: the lines of a record have none.
-/

namespace StyleObjects

/-- Whether a text holds no line feed. -/
def OneLine (s : String) : Prop :=
  '\n' ∉ s.toList

instance (s : String) : Decidable (OneLine s) :=
  inferInstanceAs (Decidable ('\n' ∉ s.toList))

/-- Texts of one line are so together. -/
@[simp] theorem oneLine_append {s t : String} : OneLine (s ++ t) ↔ OneLine s ∧ OneLine t := by
  simp [OneLine]

/-- A text is on one line if it has no line feed. -/
@[simp] theorem oneLine_ofList {s : List Char} : OneLine (String.ofList s) ↔ '\n' ∉ s := by
  simp [OneLine]

/-! ## Names -/

theorem kebabCase_oneLine {name : String} (h : OneLine name) : OneLine (kebabCase name) := by
  rw [kebabCase, oneLine_ofList]
  intro hmem
  rcases Kebab.mem_writeFrom hmem with hdash | ⟨c, hc, _, hlower⟩
  · simp at hdash
  · exact h (Unicode.eq_of_mem_lower (by decide) hlower ▸ hc)

/-- A property name is on one line if its key is. -/
theorem propertyName_oneLine {key : String} (h : OneLine key) : OneLine (propertyName key) := by
  simp only [propertyName]
  split
  · exact h
  · split
    · rw [oneLine_append]
      exact ⟨by decide, kebabCase_oneLine h⟩
    · exact kebabCase_oneLine h

/-! ## Numbers -/

/-- A positional number is made of its digits, zeros, a point, and what follows a whole number. -/
theorem NumberNotation.mem_layPositional {c : Char} {suffix ds : List Char} {exponent : Int}
    (h : c ∈ layPositional suffix ds exponent) : c ∈ suffix ∨ c ∈ ds ∨ c = '0' ∨ c = '.' := by
  simp only [layPositional] at h
  split at h
  · simp only [List.mem_append, List.mem_replicate] at h
    tauto
  · split at h
    · simp only [List.mem_append, List.mem_cons] at h
      rcases h with h | h | h
      · exact .inr (.inl (List.mem_of_mem_take h))
      · exact .inr (.inr (.inr h))
      · exact .inr (.inl (List.mem_of_mem_drop h))
    · simp only [List.mem_cons, List.mem_append, List.mem_replicate] at h
      tauto

theorem formatNumber_oneLine (x : Binary64) : OneLine (formatNumber x) := by
  have hbody (d : Decimal) : '\n' ∉ cssNumbers.layDecimal d := by
    intro h
    rcases NumberNotation.mem_layPositional h with h | h | h | h
    · simp [cssNumbers] at h
    · have hdigits : '\n' ∈ NumberNotation.digits d.digits := by
        rw [List.mem_reverse] at h
        exact List.mem_reverse.1 (List.dropWhile_subset _ h)
      have hdigit : Char.isDigit '\n' = true :=
        Nat.isDigit_of_mem_toDigits (by decide) (by decide) hdigits
      exact absurd hdigit (by decide)
    · simp at h
    · simp at h
  unfold formatNumber NumberNotation.write
  split
  · decide
  · split <;> decide
  · split
    · split <;> decide
    · rw [oneLine_ofList]
      split
      · simp [hbody]
      · exact hbody _

/-! ## Declarations -/

mutual

/-- Whether no key and no text of a value holds a line feed. -/
def StyleValue.Unbroken : StyleValue → Prop
  | .block body => body.Unbroken
  | .text s => OneLine s
  | .undefined => True
  | .number _ => True

/-- Whether no key and no text of a declaration holds a line feed, at any depth. -/
def Declaration.Unbroken : Declaration → Prop
  | .nil => True
  | .cons key value rest => OneLine key ∧ value.Unbroken ∧ rest.Unbroken

end

mutual

/-- Decides whether a value holds no line feed. -/
def StyleValue.decideUnbroken : ∀ v : StyleValue, Decidable v.Unbroken
  | .block body => body.decideUnbroken
  | .text s => inferInstanceAs (Decidable (OneLine s))
  | .undefined => inferInstanceAs (Decidable True)
  | .number _ => inferInstanceAs (Decidable True)

/-- Decides whether a declaration holds no line feed. -/
def Declaration.decideUnbroken : ∀ d : Declaration, Decidable d.Unbroken
  | .nil => inferInstanceAs (Decidable True)
  | .cons key value rest =>
    have := value.decideUnbroken
    have := rest.decideUnbroken
    inferInstanceAs (Decidable (OneLine key ∧ value.Unbroken ∧ rest.Unbroken))

end

instance (d : Declaration) : Decidable d.Unbroken := d.decideUnbroken

/-- A value is written on one line if its text is. -/
theorem propertyValue_oneLine {key value : String} {v : StyleValue} (h : v.Unbroken)
    (hvalue : propertyValue key v = some value) : OneLine value := by
  cases v with
  | undefined => simp [propertyValue] at hvalue
  | block body => simp [propertyValue] at hvalue
  | text s =>
    obtain rfl := Option.some.inj hvalue
    exact h
  | number x =>
    obtain rfl := Option.some.inj hvalue
    split
    · exact formatNumber_oneLine x
    · rw [oneLine_append]
      exact ⟨formatNumber_oneLine x, by decide⟩

/-- Whether the selector and the declarations of a rule hold no line feed. -/
structure Rule.Unbroken (rule : Rule) : Prop where
  selector : OneLine rule.selector
  declarations : ∀ line ∈ rule.declarations, OneLine line

/-- A composed selector is on one line if its parts are. -/
theorem composed_oneLine {parent key : String} {combinator : Option String}
    (hparent : OneLine parent) (hcombinator : ∀ c ∈ combinator, OneLine c)
    (hkey : OneLine key) : OneLine (composed parent combinator key) := by
  have hstands : OneLine (combinator.getD parent) := by
    cases combinator with
    | none => exact hparent
    | some c => exact hcombinator c rfl
  unfold composed
  split
  · exact oneLine_append.2 ⟨hparent, hkey⟩
  · split
    · rw [oneLine_ofList, Text.replaceChar, List.mem_flatMap]
      rintro ⟨c, hc, hmem⟩
      split at hmem
      · exact hstands hmem
      · exact hkey (List.mem_singleton.1 hmem ▸ hc)
    · simp only [oneLine_append]
      exact ⟨⟨hparent, by decide⟩, hkey⟩

namespace Declaration

/-- The entries of an unbroken declaration are so. -/
theorem entries_unbroken {d : Declaration} (h : d.Unbroken) :
    ∀ e ∈ d.entries, OneLine e.1 ∧ e.2.Unbroken := by
  fun_induction entries d with
  | case1 => simp
  | case2 key value rest ih =>
    intro e he
    rcases List.mem_cons.1 he with rfl | he
    · exact ⟨h.1, h.2.1⟩
    · exact ih h.2.2 e he

/-- The lines of an unbroken declaration are single lines. -/
theorem lines_oneLine {d : Declaration} (h : d.Unbroken) :
    ∀ line ∈ d.lines, OneLine line := by
  have hentry := entries_unbroken h
  intro line hline
  obtain ⟨e, he, hwritten⟩ := List.mem_filterMap.1 hline
  unfold propertyLine at hwritten
  split at hwritten
  · obtain ⟨value, hvalue, rfl⟩ := Option.map_eq_some_iff.1 hwritten
    simp only [oneLine_append]
    exact ⟨⟨propertyName_oneLine (hentry e he).1, by decide⟩,
      propertyValue_oneLine (hentry e he).2 hvalue⟩
  · simp at hwritten

/-- The rule of an unbroken level is unbroken. -/
theorem ofLevel_unbroken {d : Declaration} {selector : String} (h : d.Unbroken)
    (hselector : OneLine selector) : (Rule.ofLevel selector d).Unbroken := by
  refine ⟨?_, lines_oneLine h⟩
  rw [Rule.ofLevel, Rule.trimmed, oneLine_ofList]
  intro hmem
  have hstart := List.mem_reverse.1 (List.dropWhile_subset _ (List.mem_reverse.1 hmem))
  exact hselector (List.dropWhile_subset _ hstart)

/-- So are the rules of its blocks. -/
theorem nestedRules_unbroken {d : Declaration} (h : d.Unbroken) {parent : String}
    {combinator : Option String} (hparent : OneLine parent)
    (hcombinator : ∀ c ∈ combinator, OneLine c) :
    ∀ rule ∈ d.nestedRules parent combinator, rule.Unbroken := by
  intro rule hrule
  refine nestedRules_induction
    (motive := fun d parent combinator rule => d.Unbroken → OneLine parent →
      (∀ c ∈ combinator, OneLine c) → rule.Unbroken) ?_ ?_ ?_ rule hrule h hparent hcombinator
  · intro key body rest parent combinator h hparent hcombinator
    exact ofLevel_unbroken h.2.1 (composed_oneLine hparent hcombinator h.1)
  · intro key body rest parent combinator rule ih h hparent hcombinator
    exact ih h.2.1 (composed_oneLine hparent hcombinator h.1) (by simp)
  · intro key value rest parent combinator rule ih h
    exact ih h.2.2

/-- The rules of a declaration have no line feed. -/
theorem rules_unbroken {d : Declaration} (h : d.Unbroken) {selector : String}
    {combinator : Option String} (hselector : OneLine selector)
    (hcombinator : ∀ c ∈ combinator, OneLine c) :
    ∀ rule ∈ d.rules selector combinator, rule.Unbroken := by
  intro rule hrule
  rcases List.mem_cons.1 hrule with rfl | hrule
  · exact ofLevel_unbroken h hselector
  · exact nestedRules_unbroken h hselector hcombinator rule hrule

end Declaration

/-! ## Layout -/

theorem indent_oneLine (depth : Nat) : OneLine (indent depth) := by
  simp [OneLine, toList_indent, lineMargin, List.mem_replicate]

/-- The lines of separated blocks are theirs, and empty lines. -/
theorem mem_separated {line : String} {blocks : List (List String)}
    (h : line ∈ separated blocks) : line = "" ∨ ∃ block ∈ blocks, line ∈ block := by
  induction blocks with
  | nil => simp at h
  | cons block rest ih =>
    rw [← List.singleton_append, separated_append, separated_singleton] at h
    split at h
    · rcases ih h with h | ⟨other, hother, hline⟩
      · exact .inl h
      · exact .inr ⟨other, by simp [hother], hline⟩
    split at h
    · exact .inr ⟨block, by simp, h⟩
    · rcases List.mem_append.1 h with h | h
      · exact .inr ⟨block, by simp, h⟩
      rcases List.mem_cons.1 h with h | h
      · exact .inl h
      rcases ih h with h | ⟨other, hother, hline⟩
      · exact .inl h
      · exact .inr ⟨other, by simp [hother], hline⟩

/-- The empty lines between blocks break no other line. -/
theorem separated_oneLine {blocks : List (List String)}
    (h : ∀ block ∈ blocks, ∀ line ∈ block, OneLine line) :
    ∀ line ∈ separated blocks, OneLine line := by
  intro line hline
  rcases mem_separated hline with rfl | ⟨block, hblock, hmem⟩
  · decide
  · exact h block hblock line hmem

/-- The lines of an unbroken rule are single lines. -/
theorem Rule.Unbroken.layout_oneLine {rule : Rule} (h : rule.Unbroken) (depth : Nat) {label : Option String}
    (hlabel : ∀ l ∈ label, OneLine l) : ∀ line ∈ rule.layout depth label, OneLine line := by
  intro line hline
  unfold layout at hline
  split at hline
  · simp at hline
  simp only [List.mem_append, List.mem_singleton, Option.mem_toList,
    Option.map_eq_some_iff, List.mem_map] at hline
  rcases hline with ((⟨l, hl, rfl⟩ | rfl) | ⟨declaration, hdeclaration, rfl⟩) | rfl
  · have hname := hlabel l hl
    simp only [labelLine, oneLine_append, indent_oneLine, hname, true_and, and_true]
    decide
  · simp only [oneLine_append, indent_oneLine, h.selector, true_and]
    decide
  · simp only [oneLine_append, indent_oneLine, h.declarations _ hdeclaration, true_and]
    decide
  · simp only [oneLine_append, indent_oneLine, true_and]
    decide

/-- So are those of several rules. -/
theorem Rule.separated_oneLine {rules : List Rule} (h : ∀ rule ∈ rules, rule.Unbroken) (depth : Nat)
    {label : Option String} (hlabel : ∀ l ∈ label, OneLine l) :
    ∀ line ∈ separated (rules.map (·.layout depth label)), OneLine line :=
  StyleObjects.separated_oneLine
    (List.forall_mem_map.2 fun rule hrule => (h rule hrule).layout_oneLine depth hlabel)

/-- Whether nothing that the rules of an object share holds a line feed. -/
structure Scope.Unbroken (scope : Scope) : Prop where
  selector : OneLine scope.selector
  combinator : ∀ c ∈ scope.combinator, OneLine c
  label : ∀ l ∈ scope.label, OneLine l

theorem MediaQuery.layoutAll_eq_map (scope : Scope) (depth : Nat) (medias : List MediaQuery) :
    layoutAll scope depth medias = medias.map (·.layout scope depth) := by
  induction medias with
  | nil => rfl
  | cons media rest ih => rw [layoutAll, ih, List.map_cons]

/-- The lines of a media query are those of its content, between two of its own. -/
theorem MediaQuery.layout_oneLine {query : String} {body : Declaration} {nested : List MediaQuery}
    {scope : Scope} {depth : Nat} (hquery : OneLine query)
    (hrules : ∀ line ∈ separated ((body.rules scope.selector scope.combinator).map
      (·.layout (depth + 1) scope.label)), OneLine line)
    (hnested : ∀ line ∈ separated (layoutAll scope (depth + 1) nested), OneLine line) :
    ∀ line ∈ MediaQuery.layout scope depth (.mk query body nested), OneLine line := by
  intro line hline
  simp only [layout] at hline
  split at hline
  · simp at hline
  simp only [List.mem_append, List.mem_singleton] at hline
  rcases hline with (rfl | hline | hline) | rfl
  · simp only [oneLine_append, indent_oneLine, hquery, true_and]
    decide
  · exact hrules line hline
  · exact hnested line hline
  · simp only [oneLine_append, indent_oneLine, true_and]
    decide

/-- The lines of the media queries of an unbroken declaration are single lines. -/
theorem Declaration.mediaQueries_oneLine {d : Declaration} (h : d.Unbroken) {scope : Scope}
    (hscope : scope.Unbroken) (depth : Nat) :
    ∀ media ∈ d.mediaQueries, ∀ line ∈ media.layout scope depth, OneLine line := by
  intro media hmedia
  refine mediaQueries_induction
    (motive := fun d media => d.Unbroken → ∀ depth, ∀ line ∈ media.layout scope depth, OneLine line)
    ?_ ?_ ?_ media hmedia h depth
  · intro key body rest _ ih h depth
    refine MediaQuery.layout_oneLine h.1 ?_ ?_
    · exact Rule.separated_oneLine (rules_unbroken h.2.1 hscope.selector hscope.combinator)
        (depth + 1) hscope.label
    · rw [MediaQuery.layoutAll_eq_map]
      exact separated_oneLine
        (List.forall_mem_map.2 fun media hmedia => ih media hmedia h.2.1 (depth + 1))
  · intro key body rest media ih h
    exact ih h.2.1
  · intro key value rest media ih h
    exact ih h.2.2

/-- The keyframes of an unbroken declaration are unbroken. -/
theorem Declaration.keyframes_unbroken {d : Declaration} (h : d.Unbroken) :
    ∀ k ∈ d.keyframes, OneLine k.name ∧ k.frames.Unbroken := by
  intro k hk
  refine keyframes_induction
    (motive := fun d k => d.Unbroken → OneLine k.name ∧ k.frames.Unbroken) ?_ ?_ ?_ k hk h
  · intro key body rest _ h
    exact ⟨h.1, h.2.1⟩
  · intro key body rest k ih h
    exact ih h.2.1
  · intro key value rest k ih h
    exact ih h.2.2

/-- The lines of unbroken keyframes are single lines. -/
theorem Keyframes.layout_oneLine {k : Keyframes} (hname : OneLine k.name)
    (hframes : k.frames.Unbroken) : ∀ line ∈ k.layout, OneLine line := by
  have hrules : ∀ rule ∈ k.rules, rule.Unbroken := by
    intro rule hrule
    obtain ⟨e, he, hrule⟩ := List.mem_flatMap.1 hrule
    have hentry := Declaration.entries_unbroken hframes e he
    split at hrule
    · rename_i body hbody
      rw [hbody] at hentry
      exact Declaration.rules_unbroken hentry.2 hentry.1 (by simp) rule hrule
    · simp at hrule
  intro line hline
  simp only [layout] at hline
  split at hline
  · simp at hline
  simp only [List.mem_append, List.mem_singleton, List.mem_flatMap] at hline
  rcases hline with (rfl | ⟨rule, hrule, hline⟩) | rfl
  · simp only [oneLine_append, hname, true_and]
    decide
  · exact (hrules rule hrule).layout_oneLine 1 (by simp) line hline
  · decide

/-- The lines of an object hold no line feed. -/
theorem Declaration.blocks_oneLine {d : Declaration} (h : d.Unbroken) {scope : Scope}
    (hscope : scope.Unbroken) : ∀ block ∈ d.blocks scope, ∀ line ∈ block, OneLine line := by
  intro block hblock
  simp only [blocks, MediaQuery.layoutAll_eq_map, List.mem_append, List.mem_map] at hblock
  rcases hblock with (⟨rule, hrule, rfl⟩ | ⟨media, hmedia, rfl⟩) | ⟨k, hk, rfl⟩
  · exact (rules_unbroken h hscope.selector hscope.combinator rule hrule).layout_oneLine 0
      hscope.label
  · exact mediaQueries_oneLine h hscope 0 media hmedia
  · have hparts := keyframes_unbroken h k hk
    exact k.layout_oneLine hparts.1 hparts.2

/-! ## Records -/

/-- Whether no name, key, text and setting of a record that reaches its sheet holds a line feed. -/
structure Record.Unbroken (r : Record) : Prop where
  names : ∀ e ∈ r.styles.entries, OneLine e.1
  declarations : ∀ e ∈ r.styles.entries, e.2.Unbroken
  overrides : ∀ e ∈ r.overrides.entries, OneLine e.2
  combinators : ∀ e ∈ r.combinators.entries, OneLine e.2
  prepend : ∀ p ∈ r.prepend, OneLine p
  version : ∀ v ∈ r.version, OneLine v

/-- A setting that counts is on one line if it is given so. -/
theorem nonEmpty_oneLine {s : Option String} (h : ∀ t ∈ s, OneLine t) :
    ∀ t ∈ nonEmpty s, OneLine t := by
  intro t ht
  exact h t (Option.filter_eq_some_iff.1 ht).1

/-- The dashes of a version add no line feed. -/
theorem versionTag_oneLine {version : String} (h : OneLine version) :
    OneLine (String.ofList (Text.replaceChar '.' ['-'] version.toList)) := by
  rw [oneLine_ofList, Text.replaceChar, List.mem_flatMap]
  rintro ⟨c, hc, hmem⟩
  split at hmem
  · simp at hmem
  · exact h (List.mem_singleton.1 hmem ▸ hc)

/-- The base prefix is on one line if prepend and version are. -/
theorem basePrefix_oneLine {prepend version : Option String} (hprepend : ∀ p ∈ prepend, OneLine p)
    (hversion : ∀ v ∈ version, OneLine v) : OneLine (basePrefix prepend version) := by
  cases prepend with
  | none =>
    cases version with
    | none => decide
    | some v =>
      exact oneLine_append.2 ⟨by decide, versionTag_oneLine (hversion v rfl)⟩
  | some p =>
    cases version with
    | none => exact hprepend p rfl
    | some v =>
      exact oneLine_append.2 ⟨oneLine_append.2 ⟨hprepend p rfl, by decide⟩,
        versionTag_oneLine (hversion v rfl)⟩

/-- A derived target is on one line if the prefix and the name are. -/
theorem derivedTarget_oneLine {base object : String} (hbase : OneLine base)
    (hobject : OneLine object) : OneLine (derivedTarget base object) := by
  have hname := kebabCase_oneLine hobject
  simp only [derivedTarget]
  split
  · exact hbase
  · split
    · exact oneLine_append.2 ⟨hbase, hname⟩
    · exact oneLine_append.2 ⟨oneLine_append.2 ⟨hbase, by decide⟩, hname⟩

namespace Record.Unbroken

variable {r : Record}

/-- The base prefix of an unbroken record is on one line. -/
theorem base (h : r.Unbroken) : OneLine r.base :=
  basePrefix_oneLine (nonEmpty_oneLine h.prepend) (nonEmpty_oneLine h.version)

theorem combinatorFor (h : r.Unbroken) (object : String) :
    ∀ c ∈ r.combinatorFor object, OneLine c :=
  nonEmpty_oneLine fun _ hc => h.combinators _ (Dict.mem_of_get? hc)

theorem overrideFor (h : r.Unbroken) (object : String) :
    ∀ c ∈ r.overrideFor object, OneLine c :=
  nonEmpty_oneLine fun _ hc => h.overrides _ (Dict.mem_of_get? hc)

/-- What an object gives to its rules holds no line feed. -/
theorem scope (h : r.Unbroken) {object : String} (hobject : OneLine object) :
    (r.scope object).Unbroken := by
  have hexplicit := h.combinatorFor object
  have hlabel : ∀ l ∈ (r.scope object).label, OneLine l := by
    intro l hl
    simp only [Record.scope, Option.mem_def] at hl
    split at hl
    · exact Option.some.inj hl ▸ hobject
    · simp at hl
  cases hoverride : r.overrideFor object with
  | some selector =>
    refine ⟨?_, ?_, hlabel⟩
    · simpa [Record.scope, Record.resolve, hoverride] using h.overrideFor object selector hoverride
    · intro c hc
      simp only [Record.scope, Record.resolve, hoverride, Option.mem_def, Option.some.injEq] at hc
      subst hc
      cases hgiven : r.combinatorFor object with
      | none => exact h.base
      | some c => exact hexplicit c hgiven
  | none =>
    refine ⟨?_, ?_, hlabel⟩
    · simpa [Record.scope, Record.resolve, hoverride] using derivedTarget_oneLine h.base hobject
    · intro c hc
      simp only [Record.scope, Record.resolve, hoverride, Option.mem_def,
        Option.or_eq_some_iff] at hc
      rcases hc with hc | ⟨_, hc⟩
      · exact hexplicit c hc
      · split at hc
        · simp at hc
        · exact Option.some.inj hc ▸ h.base

/-- The lines of a record hold no line feed. -/
theorem blocks (h : r.Unbroken) : ∀ line ∈ separated r.blocks, OneLine line := by
  refine separated_oneLine ?_
  intro block hblock
  obtain ⟨e, he, hblock⟩ := List.mem_flatMap.1 hblock
  have hentry := (List.mem_filter.1 he).1
  exact Declaration.blocks_oneLine (h.declarations e hentry) (h.scope (h.names e hentry)) block
    hblock

end Record.Unbroken

end StyleObjects
