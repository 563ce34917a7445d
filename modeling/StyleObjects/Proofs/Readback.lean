import StyleObjects.Proofs.Unbroken

/-!
# Reading a sheet back

The text of a sheet is joined from lines and trimmed at its ends.  Neither the joining nor the
trimming can be seen in the lines of the text, so that a reader who looks at the last character of
each line finds the outline that the compiler meant.

Main results:

- `Text.lines_intercalate`: joining lines and splitting the text again gives the lines back.
- `Record.css_eq_intercalate`: the lines are joined, and nothing is trimmed from them.
- `Record.lines_css`: the lines of a sheet are the lines of the blocks of its record.
- `Record.readOutline?_css`: the outline of a sheet can be read from its text.
-/

namespace StyleObjects

/-! ## Joining and trimming -/

namespace Text

/-- Lines are split at line feeds. -/
theorem pieces_eq_splitOn (s : List Char) : pieces s = s.splitOn '\n' := by
  induction s with
  | nil => rfl
  | cons c s ih =>
    have hpieces : pieces s ≠ [] := ih ▸ List.splitOn_ne_nil '\n' s
    obtain ⟨piece, others, hsplit⟩ := List.exists_cons_of_ne_nil hpieces
    rw [pieces, List.splitOn_cons_eq_if_modifyHead, ← ih, hsplit]
    by_cases hc : c = '\n' <;> simp [hc]

/-- Lines that do not end with a carriage return end at their line feeds. -/
theorem endLines_eq_self {lines : List (List Char)} (hnonempty : ∀ line ∈ lines.getLast?, line ≠ [])
    (hreturn : ∀ line ∈ lines, line.getLast? ≠ some '\r') : endLines lines = lines := by
  induction lines with
  | nil => rfl
  | cons line rest ih =>
    match rest with
    | [] =>
      have hline : line ≠ [] := hnonempty line rfl
      simp [endLines, hline]
    | next :: rest =>
      rw [endLines, ih hnonempty fun other hother => hreturn other (by simp [hother]), dropReturn,
        if_neg (hreturn line (by simp))]
      simp

/-- Joining lines and splitting the text again gives the lines back. -/
theorem lines_intercalate {lines : List (List Char)} (hfeed : ∀ line ∈ lines, '\n' ∉ line)
    (hnonempty : ∀ line ∈ lines.getLast?, line ≠ [])
    (hreturn : ∀ line ∈ lines, line.getLast? ≠ some '\r') :
    Text.lines (['\n'].intercalate lines) = lines := by
  by_cases hlines : lines = []
  · subst hlines
    rfl
  · rw [Text.lines, pieces_eq_splitOn, List.splitOn_intercalate '\n' hfeed hlines]
    exact endLines_eq_self hnonempty hreturn

/-- A text that does not start with a blank is not trimmed at its start. -/
theorem trimStart_eq_self {s : List Char} (h : ∀ c ∈ s.head?, isBlank c = false) :
    trimStart s = s := by
  cases s with
  | nil => rfl
  | cons c s => simp [trimStart, h c rfl]

/-- A text that neither starts nor ends with a blank is not trimmed. -/
theorem trim_eq_self {s : List Char} (hfirst : ∀ c ∈ s.head?, isBlank c = false)
    (hlast : ∀ c ∈ s.getLast?, isBlank c = false) : trim s = s := by
  have hreverse : trimStart s.reverse = s.reverse :=
    trimStart_eq_self (by simpa [List.head?_reverse] using hlast)
  rw [trim, trimStart_eq_self hfirst, trimEnd]
  rw [trimStart] at hreverse
  rw [hreverse, List.reverse_reverse]

/-- A trimmed text does not start with a blank. -/
theorem isBlank_head?_trim {s : List Char} : ∀ c ∈ (trim s).head?, isBlank c = false := by
  intro c hc
  have hprefix : trim s <+: trimStart s := by
    have hsuffix := List.dropWhile_suffix isBlank (l := (trimStart s).reverse)
    rw [← List.reverse_prefix] at hsuffix
    simpa [trim, trimEnd] using hsuffix
  have hhead : c ∈ (trimStart s).head? := by
    obtain ⟨rest, hrest⟩ := hprefix
    rw [← hrest, List.head?_append]
    simp [Option.mem_def.1 hc]
  have hnot := List.head?_dropWhile_not isBlank s
  rw [trimStart] at hhead
  rw [Option.mem_def.1 hhead] at hnot
  simpa using hnot

end Text

/-! ## How blocks begin -/

/-- Whether the first line, if there is one, starts with a character that is not blank. -/
def StartsDark (lines : List String) : Prop :=
  ∀ line ∈ lines.head?, ∃ c ∈ line.toList.head?, Text.isBlank c = false

/-- The blocks of a sheet start as the first of them that has lines. -/
theorem separated_startsDark {blocks : List (List String)}
    (h : ∀ block ∈ blocks, StartsDark block) : StartsDark (separated blocks) := by
  induction blocks with
  | nil => simp [StartsDark]
  | cons block rest ih =>
    have hfirst := h block (by simp)
    rw [← List.singleton_append, separated_append, separated_singleton]
    split
    · exact ih fun other hother => h other (by simp [hother])
    · rename_i hblock
      split
      · exact hfirst
      · rw [StartsDark, List.head?_append_of_ne_nil _ hblock]
        exact hfirst

/-- A line at the outermost level starts as its text does. -/
theorem startsDark_cons {line : String} {rest : List String} {c : Char}
    (hline : line.toList.head? = some c) (hc : Text.isBlank c = false) : StartsDark (line :: rest) := by
  intro first hfirst
  obtain rfl := Option.some.inj hfirst
  exact ⟨c, hline, hc⟩

/-- A rule starts with its label or its selector. -/
theorem Rule.layout_startsDark {rule : Rule}
    (h : rule.isWritten = true → ∃ c ∈ rule.selector.toList.head?, Text.isBlank c = false)
    (label : Option String) : StartsDark (rule.layout 0 label) := by
  unfold layout
  split
  · simp [StartsDark]
  · rename_i hwritten
    obtain ⟨c, hc, hdark⟩ := h (by simpa [isWritten] using hwritten)
    have hopening : (indent 0 ++ rule.selector ++ " \x7b").toList.head? = some c := by
      simp [indent, List.head?_append, Option.mem_def.1 hc]
    cases label with
    | none => exact startsDark_cons hopening hdark
    | some label => exact startsDark_cons (c := '/') (by simp [labelLine, indent]) (by decide)

/-- An at-rule starts with an at sign. -/
theorem startsDark_atRule {start key line : String} {rest : List String}
    (hstart : start.toList.head? = some '@') (hkey : keyStarts start key = true)
    (hline : ∃ more, line = key ++ more) : StartsDark (line :: rest) := by
  obtain ⟨more, rfl⟩ := hline
  rw [keyStarts, List.isPrefixOf_iff_prefix] at hkey
  obtain ⟨suffix, hsuffix⟩ := hkey
  refine startsDark_cons (c := '@') ?_ (by decide)
  simp [← hsuffix, List.head?_append, hstart]

namespace Declaration

/-- The selectors of nested rules are trimmed. -/
theorem nestedRules_trimmed (d : Declaration) {parent : String} {combinator : Option String} :
    ∀ rule ∈ d.nestedRules parent combinator, ∃ s, rule.selector = Rule.trimmed s :=
  nestedRules_induction (motive := fun _ _ _ rule => ∃ s, rule.selector = Rule.trimmed s)
    ⟨_, rfl⟩ id id

/-- A selector starts with a blank only if it is empty. -/
theorem rules_selector {d : Declaration} {selector : String} {combinator : Option String} {rule : Rule}
    (hrule : rule ∈ d.rules selector combinator) (hsome : rule.selector ≠ "") :
    ∃ c ∈ rule.selector.toList.head?, Text.isBlank c = false := by
  have htrimmed : ∃ s, rule.selector = Rule.trimmed s := by
    rcases List.mem_cons.1 hrule with rfl | hrule
    · exact ⟨_, rfl⟩
    · exact d.nestedRules_trimmed rule hrule
  obtain ⟨s, hs⟩ := htrimmed
  rw [hs, Rule.trimmed] at hsome ⊢
  rw [String.toList_ofList]
  cases htext : Text.trim s.toList with
  | nil => simp [htext] at hsome
  | cons c rest =>
    have hfirst : c ∈ (Text.trim s.toList).head? := by simp [htext]
    exact ⟨c, rfl, Text.isBlank_head?_trim c hfirst⟩

/-- A media query starts with its mark. -/
theorem isMediaKey_of_mem_mediaQueries {d : Declaration} :
    ∀ media ∈ d.mediaQueries, ∃ query body nested, media = .mk query body nested ∧
      isMediaKey query = true :=
  mediaQueries_induction (motive := fun _ media => ∃ query body nested,
    media = .mk query body nested ∧ isMediaKey query = true)
    (fun hkey _ => ⟨_, _, _, rfl, hkey⟩) id id

/-- Keyframes start with their mark. -/
theorem isKeyframesKey_of_mem_keyframes {d : Declaration} :
    ∀ k ∈ d.keyframes, isKeyframesKey k.name = true :=
  keyframes_induction (motive := fun _ k => isKeyframesKey k.name = true) id id id

/-- Every block of an object starts with a character that is not blank, if the rules outside of
at-rules that are written have a selector. -/
theorem blocks_startsDark {d : Declaration} {scope : Scope}
    (h : ∀ rule ∈ d.rules scope.selector scope.combinator, rule.isWritten = true →
      rule.selector ≠ "") : ∀ block ∈ d.blocks scope, StartsDark block := by
  intro block hblock
  simp only [blocks, MediaQuery.layoutAll_eq_map, List.mem_append, List.mem_map] at hblock
  rcases hblock with (⟨rule, hrule, rfl⟩ | ⟨media, hmedia, rfl⟩) | ⟨k, hk, rfl⟩
  · exact Rule.layout_startsDark (fun hwritten => rules_selector hrule (h rule hrule hwritten))
      scope.label
  · obtain ⟨query, body, nested, rfl, hkey⟩ := isMediaKey_of_mem_mediaQueries media hmedia
    simp only [MediaQuery.layout]
    split
    · simp [StartsDark]
    · exact startsDark_atRule rfl hkey ⟨" \x7b", by simp [indent]⟩
  · simp only [Keyframes.layout]
    split
    · simp [StartsDark]
    · exact startsDark_atRule rfl (isKeyframesKey_of_mem_keyframes k hk) ⟨" \x7b", rfl⟩

end Declaration

/-! ## The text of a sheet -/

/-- Each of the lines is of some kind. -/
theorem Indented.exists_kind {depth last : Nat} {lines : List (List Char)}
    (h : Indented depth lines last) : ∀ line ∈ lines, ∃ kind, lineKind? line = some kind := by
  induction h with
  | nil => simp
  | opening kind _ _ ih => exact List.forall_mem_cons.2 ⟨⟨_, kind⟩, ih⟩
  | closing kind _ _ ih => exact List.forall_mem_cons.2 ⟨⟨_, kind⟩, ih⟩
  | declaration kind _ _ ih => exact List.forall_mem_cons.2 ⟨⟨_, kind⟩, ih⟩
  | label kind _ _ ih => exact List.forall_mem_cons.2 ⟨⟨_, kind⟩, ih⟩
  | separator _ ih => exact List.forall_mem_cons.2 ⟨⟨.separator, rfl⟩, ih⟩

/-- The last character of a line that has a kind is one of the four marks. -/
theorem isBlank_getLast?_of_kind {line : List Char} {kind : LineKind}
    (h : lineKind? line = some kind) : ∀ c ∈ line.getLast?, Text.isBlank c = false := by
  intro c hc
  unfold lineKind? at h
  split at h
  all_goals simp_all
  all_goals subst hc; decide

/-- Joined lines start as the first of them. -/
theorem head?_intercalate {between line : List Char} {rest : List (List Char)} {c : Char}
    (h : line.head? = some c) : (between.intercalate (line :: rest)).head? = some c := by
  cases rest with
  | nil => simpa using h
  | cons next rest => simp [List.head?_append, h]

/-- Joined lines end as the last of them. -/
theorem getLast?_intercalate {between : List Char} {lines : List (List Char)}
    (h : ∀ line ∈ lines.getLast?, line ≠ []) :
    (between.intercalate lines).getLast? = lines.getLast?.bind List.getLast? := by
  induction lines with
  | nil => rfl
  | cons line rest ih =>
    match rest with
    | [] => simp
    | next :: rest =>
      have hrest : between.intercalate (next :: rest) ≠ [] := by
        intro hnil
        have hnone := ih h
        obtain ⟨line, hline⟩ := Option.isSome_iff_exists.1 (List.getLast?_isSome.2 (by simp) :
          (next :: rest).getLast?.isSome)
        rw [hnil, hline] at hnone
        exact h line hline (List.getLast?_eq_none_iff.1 hnone.symm)
      rw [List.intercalate_cons_cons, List.getLast?_append_of_ne_nil _ hrest, ih h]
      rfl

/-- Whether every rule that is written outside of at-rules has a selector. -/
def Record.HasSelectors (r : Record) : Prop :=
  ∀ e ∈ r.compiled, ∀ rule ∈ e.2.rules (r.scope e.1).selector (r.scope e.1).combinator,
    rule.isWritten = true → rule.selector ≠ ""

instance (r : Record) : Decidable r.HasSelectors :=
  inferInstanceAs (Decidable (∀ e ∈ r.compiled, ∀ rule ∈
    e.2.rules (r.scope e.1).selector (r.scope e.1).combinator,
    rule.isWritten = true → rule.selector ≠ ""))

/-- Outside of at-rules every block starts with a character that is not blank. -/
theorem Record.HasSelectors.startsDark {r : Record} (h : r.HasSelectors) :
    StartsDark (separated r.blocks) := by
  refine separated_startsDark ?_
  intro block hblock
  obtain ⟨e, he, hblock⟩ := List.mem_flatMap.1 hblock
  exact Declaration.blocks_startsDark (h e he) block hblock

/-- The last line of the blocks, if there is one, is not empty. -/
theorem Record.ne_nil_of_getLast?_blocks (r : Record) :
    ∀ line ∈ (characters (separated r.blocks)).getLast?, line ≠ [] := by
  rintro line hline rfl
  exact r.lays_blocks.tidy.last [] hline (.inr rfl)

/-- Nothing is trimmed from the text of a sheet. -/
theorem Record.css_eq_intercalate {r : Record} (h : r.HasSelectors) :
    r.css = "\n".intercalate (separated r.blocks) := by
  have htext : ("\n".intercalate (separated r.blocks)).toList =
      ['\n'].intercalate (characters (separated r.blocks)) :=
    String.toList_intercalate
  have htrim : Text.trim ("\n".intercalate (separated r.blocks)).toList =
      ("\n".intercalate (separated r.blocks)).toList := by
    rw [htext]
    apply Text.trim_eq_self
    · intro c hc
      cases hlines : separated r.blocks with
      | nil => simp [hlines, characters] at hc
      | cons line rest =>
        obtain ⟨d, hd, hdark⟩ := h.startsDark line (by simp [hlines])
        rw [hlines, characters, List.map_cons, head?_intercalate hd] at hc
        exact Option.some.inj hc ▸ hdark
    · intro c hc
      rw [getLast?_intercalate r.ne_nil_of_getLast?_blocks] at hc
      obtain ⟨line, hline, hc⟩ := Option.bind_eq_some_iff.1 hc
      obtain ⟨kind, hkind⟩ :=
        r.lays_blocks.indented.exists_kind line (List.mem_of_getLast? hline)
      exact isBlank_getLast?_of_kind hkind c hc
  rw [css, htrim, String.ofList_toList]

/-- The lines of a sheet are the lines of the blocks of its record. -/
theorem Record.lines_css {r : Record} (hunbroken : r.Unbroken) (hselectors : r.HasSelectors) :
    Text.lines r.css.toList = characters (separated r.blocks) := by
  have htext : r.css.toList = ['\n'].intercalate (characters (separated r.blocks)) := by
    rw [css_eq_intercalate hselectors]
    exact String.toList_intercalate
  rw [htext]
  apply Text.lines_intercalate
  · intro line hline
    obtain ⟨text, htext, rfl⟩ := List.mem_map.1 hline
    exact hunbroken.blocks text htext
  · exact r.ne_nil_of_getLast?_blocks
  · intro line hline hreturn
    obtain ⟨kind, hkind⟩ := r.lays_blocks.indented.exists_kind line hline
    exact absurd (isBlank_getLast?_of_kind hkind '\r' hreturn) (by decide)

/-- The outline that the compiler meant can be read from the text of the sheet alone: object by
object in ascending order, and in the order of the keys within each.  The text is indented for its
braces, which are balanced, and has no block without content and no empty line but one between two
blocks. -/
theorem Record.readOutline?_css {r : Record} (hunbroken : r.Unbroken) (hselectors : r.HasSelectors) :
    readOutline? r.css = some r.outline ∧ Ascending r.compiled ∧ (∀ e ∈ r.compiled, e.2.Ordered) ∧
      Indented 0 (Text.lines r.css.toList) 0 ∧ Tidy (Text.lines r.css.toList) := by
  have hlays := r.lays_blocks
  have hlines := lines_css hunbroken hselectors
  have hread := hlays.reads .start rfl rfl
  refine ⟨?_, ?_, ?_, ?_, ?_⟩
  · rw [readOutline?, hlines, hread]
    rfl
  · exact r.styles.objects.ascending.filter _
  · intro e he
    exact r.styles.ordered e (List.mem_filter.1 he).1
  · rw [hlines]
    exact hlays.indented
  · rw [hlines]
    exact hlays.tidy

/-- Two objects with labels: a rule, a rule that is not written, a media query below a rule, and
keyframes. -/
def Record.sample : Record :=
  { ofModule (.ofList [
      ("tab", .cons "color" (.text "red") (.cons ":hover" (.block .nil) .nil)),
      ("navBar", .cons "& > &" (.block (.cons "@media print" (.block
          (.cons "margin" (.text "0") (.cons "a" (.block (.cons "top" (.text "1em") .nil)) .nil)))
          .nil))
        (.cons "@keyframes spin" (.block (.cons "to" (.block (.cons "opacity" (.text "1") .nil))
          .nil)) .nil))]) with
    prepend := some ".app"
    map := true }

theorem Record.readOutline?_css_sample :
    (sample.Unbroken ∧ sample.HasSelectors) ∧
    readOutline? sample.css = some sample.outline ∧ Ascending sample.compiled ∧
      (∀ e ∈ sample.compiled, e.2.Ordered) ∧ Indented 0 (Text.lines sample.css.toList) 0 ∧
      Tidy (Text.lines sample.css.toList) := by
  have hunbroken : sample.Unbroken :=
    ⟨by decide +kernel, by decide +kernel, by decide, by decide, by decide, by decide⟩
  have hselectors : sample.HasSelectors := by decide +kernel
  exact ⟨⟨hunbroken, hselectors⟩, readOutline?_css hunbroken hselectors⟩

end StyleObjects
