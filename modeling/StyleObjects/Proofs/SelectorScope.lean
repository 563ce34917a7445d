import StyleObjects.Proofs.NestedBlocks

/-!
# The scope of selectors

Nested keys rewrite the selector around them: they are appended to it, or it takes the place of each
`&` in them.  However often this happens, the selector of a rule still holds the target of its
object, or the combinator of the object.  And no `&` is left over, unless a pseudo key holds one,
which is not replaced there.

Main results:

- `Text.trim_infix_trim`: a trimmed text that occurs in another still occurs when that is trimmed.
- `InScope.of_composed`: what is below a composed selector is below its parts.
- `composed_noAmpersand`: a composed selector holds no `&` but those of pseudo keys.
- `Declaration.rulesWithMedia_inScope`: every rule of an object stays within its scope.
-/

namespace StyleObjects

/-! ## Trimmed texts inside of others -/

namespace Text

/-- A text that does not start with a blank still occurs without the blanks in front. -/
theorem infix_trimStart {needle s : List Char} (hfirst : ∀ c ∈ needle.head?, isBlank c = false)
    (h : needle <:+: s) : needle <:+: trimStart s := by
  induction s with
  | nil => exact h
  | cons d s ih =>
    cases hd : isBlank d with
    | false =>
      rw [trimStart, List.dropWhile_cons_of_neg (by simp [hd])]
      exact h
    | true =>
      have hrest : trimStart (d :: s) = trimStart s := List.dropWhile_cons_of_pos hd
      rw [hrest]
      rcases List.infix_cons_iff.1 h with hprefix | hinside
      · cases needle with
        | nil => exact List.nil_infix
        | cons c needle =>
          obtain ⟨rfl, -⟩ := List.cons_prefix_cons.1 hprefix
          have hdark := hfirst c rfl
          rw [hd] at hdark
          cases hdark
      · exact ih hinside

/-- Trimming the end is trimming the start of the reversed text. -/
theorem trimEnd_eq_reverse (s : List Char) : trimEnd s = (trimStart s.reverse).reverse := rfl

/-- A text that does not end with a blank still occurs without the blanks behind. -/
theorem infix_trimEnd {needle s : List Char} (hlast : ∀ c ∈ needle.getLast?, isBlank c = false)
    (h : needle <:+: s) : needle <:+: trimEnd s := by
  have hreverse : needle.reverse <:+: trimStart s.reverse :=
    infix_trimStart (by simpa [List.head?_reverse] using hlast) (List.reverse_infix.2 h)
  rw [trimEnd_eq_reverse, ← List.reverse_infix, List.reverse_reverse]
  exact hreverse

/-- A trimmed text does not end with a blank. -/
theorem isBlank_getLast?_trim {s : List Char} : ∀ c ∈ (trim s).getLast?, isBlank c = false := by
  intro c hc
  rw [trim, trimEnd, List.getLast?_reverse] at hc
  have hnot := List.head?_dropWhile_not isBlank (trimStart s).reverse
  rw [Option.mem_def.1 hc] at hnot
  simpa using hnot

/-- Trimming cuts a text out. -/
theorem trim_infix (s : List Char) : trim s <:+: s := by
  have hend : trim s <:+: trimStart s := by
    rw [trim, trimEnd_eq_reverse, ← List.reverse_infix, List.reverse_reverse]
    exact (List.dropWhile_suffix isBlank).isInfix
  exact hend.trans (List.dropWhile_suffix isBlank).isInfix

/-- A trimmed text that occurs in another still occurs when that is trimmed. -/
theorem trim_infix_trim {x s : List Char} (h : trim x <:+: s) : trim x <:+: trim s :=
  infix_trimEnd isBlank_getLast?_trim (infix_trimStart isBlank_head?_trim h)

/-- What replaces a character that occurs can be found afterwards. -/
theorem infix_replaceChar {old : Char} {s : List Char} (h : old ∈ s) (new : List Char) :
    new <:+: replaceChar old new s := by
  obtain ⟨before, after, rfl⟩ := List.append_of_mem h
  refine ⟨replaceChar old new before, replaceChar old new after, ?_⟩
  simp [replaceChar]

/-- A character that is replaced by a text without it does not occur any more. -/
theorem not_mem_replaceChar {old : Char} {new : List Char} (h : old ∉ new) (s : List Char) :
    old ∉ replaceChar old new s := by
  intro hmem
  obtain ⟨c, -, hc⟩ := List.mem_flatMap.1 hmem
  split at hc
  · exact h hc
  · rename_i hne
    exact hne (List.mem_singleton.1 hc).symm

end Text

/-! ## Selectors below others -/

/-- Whether one text occurs in another. -/
def OccursIn (s t : String) : Prop :=
  s.toList <:+: t.toList

instance (s t : String) : Decidable (OccursIn s t) :=
  decidable_of_iff _ Text.isInfix_iff

namespace OccursIn

variable {s t u : String}

/-- What occurs in a part of a text occurs in the text. -/
theorem trans (h : OccursIn s t) (h' : OccursIn t u) : OccursIn s u :=
  List.IsInfix.trans h h'

theorem trimmed_self (s : String) : OccursIn (Rule.trimmed s) s := by
  rw [OccursIn, Rule.trimmed, String.toList_ofList]
  exact Text.trim_infix s.toList

/-- What occurs in a text does so after both are trimmed. -/
theorem trimmed (h : OccursIn s t) : OccursIn (Rule.trimmed s) (Rule.trimmed t) := by
  have hinside := (trimmed_self s).trans h
  rw [OccursIn, Rule.trimmed, String.toList_ofList] at hinside
  rw [OccursIn, Rule.trimmed, Rule.trimmed, String.toList_ofList, String.toList_ofList]
  exact Text.trim_infix_trim hinside

end OccursIn

/-- Whether a selector holds the target of an object, or its combinator. -/
def InScope (target : String) (combinator : Option String) (selector : String) : Prop :=
  OccursIn (Rule.trimmed target) selector ∨
    ∃ c ∈ combinator, OccursIn (Rule.trimmed c) selector

instance (target : String) (combinator : Option String) (selector : String) :
    Decidable (InScope target combinator selector) :=
  inferInstanceAs (Decidable (_ ∨ _))

/-- A composed selector holds the parent, or what stands for `&`. -/
theorem occursIn_composed (parent : String) (combinator : Option String) (key : String) :
    OccursIn parent (composed parent combinator key) ∨
      ∃ c ∈ combinator, OccursIn c (composed parent combinator key) := by
  unfold composed
  split
  · exact .inl ⟨[], key.toList, by simp⟩
  split
  · rename_i hkey
    have hstands : OccursIn (combinator.getD parent)
        (String.ofList (Text.replaceChar '&' (combinator.getD parent).toList key.toList)) := by
      rw [OccursIn, String.toList_ofList]
      exact Text.infix_replaceChar hkey _
    cases combinator with
    | none => exact .inl hstands
    | some c => exact .inr ⟨c, rfl, hstands⟩
  · exact .inl ⟨[], ' ' :: key.toList, by simp⟩

/-- What is below a composed selector is below its parts. -/
theorem InScope.of_composed {parent key selector : String} {combinator : Option String}
    (h : InScope (composed parent combinator key) none selector) :
    InScope parent combinator selector := by
  have hbelow : OccursIn (Rule.trimmed (composed parent combinator key)) selector := by
    rcases h with h | ⟨_, hnone, -⟩
    · exact h
    · cases hnone
  rcases occursIn_composed parent combinator key with hparent | ⟨c, hc, hcombinator⟩
  · exact .inl (hparent.trimmed.trans hbelow)
  · exact .inr ⟨c, hc, hcombinator.trimmed.trans hbelow⟩

/-! ## Selectors without `&` -/

/-- Whether a text holds no `&`. -/
def NoAmpersand (s : String) : Prop :=
  '&' ∉ s.toList

instance (s : String) : Decidable (NoAmpersand s) :=
  inferInstanceAs (Decidable (_ ∉ _))

/-- Trimming brings in no ampersand. -/
theorem NoAmpersand.trimmed {s : String} (h : NoAmpersand s) : NoAmpersand (Rule.trimmed s) :=
  fun hmem => h ((OccursIn.trimmed_self s).subset hmem)

/-- A composed selector holds no `&` but those of pseudo keys. -/
theorem composed_noAmpersand {parent key : String} {combinator : Option String}
    (hparent : NoAmpersand parent) (hcombinator : ∀ c ∈ combinator, NoAmpersand c)
    (hkey : keyStarts ":" key = true → NoAmpersand key) :
    NoAmpersand (composed parent combinator key) := by
  unfold composed
  split
  · rename_i hpseudo
    simpa [NoAmpersand] using ⟨hparent, hkey hpseudo⟩
  split
  · have hstands : NoAmpersand (combinator.getD parent) := by
      cases combinator with
      | none => exact hparent
      | some c => exact hcombinator c rfl
    rw [NoAmpersand, String.toList_ofList]
    exact Text.not_mem_replaceChar hstands _
  · rename_i hplain
    simpa [NoAmpersand] using ⟨hparent, hplain⟩

/-! ## Rules -/

namespace Declaration

/-- Whether no pseudo key holds an `&`, at any depth. -/
def PseudoKeysPlain (d : Declaration) : Prop :=
  ∀ b ∈ d.nestedBlocks, keyStarts ":" b.key = true → NoAmpersand b.key

instance (d : Declaration) : Decidable d.PseudoKeysPlain :=
  inferInstanceAs (Decidable (∀ b ∈ d.nestedBlocks, keyStarts ":" b.key = true → NoAmpersand b.key))

namespace PseudoKeysPlain

variable {key : String} {value : StyleValue} {inner others : Declaration}

/-- A pseudo key at the front has no ampersand. -/
theorem key_noAmpersand (h : (cons key (.block inner) others).PseudoKeysPlain) :
    keyStarts ":" key = true → NoAmpersand key :=
  h ⟨[], key, inner⟩ (by simp [nestedBlocks_block])

/-- The condition goes over to the body of any block inside. -/
theorem body {d : Declaration} (h : d.PseudoKeysPlain) {b : NestedBlock}
    (hb : b ∈ d.nestedBlocks) : b.body.PseudoKeysPlain :=
  fun c hc => h ⟨b.keys ++ c.path, c.key, c.body⟩ (mem_nestedBlocks_trans hb hc)

theorem rest (h : (cons key value others).PseudoKeysPlain) : others.PseudoKeysPlain := by
  intro b hb
  apply h
  cases value <;> simp [nestedBlocks, hb]

end PseudoKeysPlain

/-- The rules of a declaration outside of media queries, and those of every media query in it. -/
def rulesWithMedia (d : Declaration) (target : String) (combinator : Option String) : List Rule :=
  d.rules target combinator ++
    (MediaQuery.foundAll [] d.mediaQueries).flatMap (·.body.rules target combinator)

/-- A rule outside of media queries, or a rule in the body of a media query that is found. -/
theorem mem_rulesWithMedia {d : Declaration} {target : String} {combinator : Option String}
    {rule : Rule} (h : rule ∈ d.rulesWithMedia target combinator) :
    rule ∈ d.rules target combinator ∨
      ∃ b ∈ d.nestedBlocks, rule ∈ b.body.rules target combinator := by
  rcases List.mem_append.1 h with h | h
  · exact .inl h
  · obtain ⟨found, hfound, hrule⟩ := List.mem_flatMap.1 h
    rw [foundAll_mediaQueries] at hfound
    obtain ⟨b, hb, rfl⟩ := List.mem_map.1 hfound
    exact .inr ⟨b, (List.mem_filter.1 hb).1, hrule⟩

/-- A rule holds the selector that its declaration is collected under, or the combinator. -/
theorem rules_inScope (d : Declaration) (target : String) (combinator : Option String) :
    ∀ rule ∈ d.rules target combinator, InScope target combinator rule.selector := by
  have hself (selector : String) (combinator : Option String) (d : Declaration) :
      InScope selector combinator (Rule.ofLevel selector d).selector :=
    .inl (List.infix_refl _)
  intro rule hrule
  rcases List.mem_cons.1 hrule with rfl | hrule
  · exact hself target combinator d
  · exact nestedRules_induction
      (motive := fun _ parent combinator rule => InScope parent combinator rule.selector)
      (hself _ none _).of_composed InScope.of_composed id rule hrule

/-- A rule holds no `&`, if neither its target and its combinator nor the pseudo keys hold one. -/
theorem rules_noAmpersand {d : Declaration} (h : d.PseudoKeysPlain) {target : String}
    {combinator : Option String} (htarget : NoAmpersand target)
    (hcombinator : ∀ c ∈ combinator, NoAmpersand c) :
    ∀ rule ∈ d.rules target combinator, NoAmpersand rule.selector := by
  intro rule hrule
  rcases List.mem_cons.1 hrule with rfl | hrule
  · exact htarget.trimmed
  · refine nestedRules_induction
      (motive := fun d parent combinator rule => d.PseudoKeysPlain → NoAmpersand parent →
        (∀ c ∈ combinator, NoAmpersand c) → NoAmpersand rule.selector)
      ?here ?inside ?later rule hrule h htarget hcombinator
    case here =>
      intro key body rest parent combinator h hparent hcombinator
      exact (composed_noAmpersand hparent hcombinator h.key_noAmpersand).trimmed
    case inside =>
      intro key body rest parent combinator rule hinside h hparent hcombinator
      have hbody : body.PseudoKeysPlain :=
        h.body (b := ⟨[], key, body⟩) (by simp [nestedBlocks_block])
      exact hinside hbody (composed_noAmpersand hparent hcombinator h.key_noAmpersand) (by simp)
    case later =>
      intro key value rest parent combinator rule hlater h hparent hcombinator
      exact hlater h.rest hparent hcombinator

/-- Every rule of an object, and every rule of its media queries at any depth, stays within the
scope of the object: its selector holds the target or the combinator, trimmed.  If these hold no `&`
and no pseudo key does, then no selector has an `&` left in it. -/
theorem rulesWithMedia_inScope (d : Declaration) (target : String) (combinator : Option String) :
    (∀ rule ∈ d.rulesWithMedia target combinator, InScope target combinator rule.selector) ∧
    (d.PseudoKeysPlain → NoAmpersand target → (∀ c ∈ combinator, NoAmpersand c) →
      ∀ rule ∈ d.rulesWithMedia target combinator, NoAmpersand rule.selector) := by
  constructor
  · intro rule hrule
    rcases mem_rulesWithMedia hrule with hrule | ⟨b, -, hrule⟩
    · exact d.rules_inScope target combinator rule hrule
    · exact b.body.rules_inScope target combinator rule hrule
  · intro h htarget hcombinator rule hrule
    rcases mem_rulesWithMedia hrule with hrule | ⟨b, hb, hrule⟩
    · exact rules_noAmpersand h htarget hcombinator rule hrule
    · exact rules_noAmpersand (h.body hb) htarget hcombinator rule hrule

/-- An `&` in a pseudo key is left as it stands. -/
example : ((cons ":is(& a)" (.block .nil) .nil).rulesWithMedia ".card" none).map (·.selector) =
    [".card", ".card:is(& a)"] := by
  decide +kernel

/-- A parent that is repeated, a pseudo key below it, and a media query with a key of its own. -/
def scopeSample : Declaration :=
  .cons "& + &" (.block (.cons ":hover" (.block (.cons "a &" (.block .nil) .nil)) .nil))
    (.cons "@media print" (.block (.cons "[open] &" (.block .nil) .nil)) .nil)

theorem rulesWithMedia_inScope_sample :
    scopeSample.PseudoKeysPlain ∧ NoAmpersand " .card" ∧
    (scopeSample.rulesWithMedia " .card" (some ".x ")).map (·.selector) =
      [".card", ".x  + .x", ".x  + .x :hover", "a .x  + .x :hover", ".card", "[open] .x"] ∧
    (∀ rule ∈ scopeSample.rulesWithMedia " .card" (some ".x "),
      InScope " .card" (some ".x ") rule.selector) ∧
    ∀ rule ∈ scopeSample.rulesWithMedia " .card" (some ".x "), NoAmpersand rule.selector := by
  obtain ⟨hscope, hplain⟩ := rulesWithMedia_inScope scopeSample " .card" (some ".x ")
  have hkeys : scopeSample.PseudoKeysPlain := by decide +kernel
  have htarget : NoAmpersand " .card" := by decide
  have hcombinator : ∀ c ∈ some ".x ", NoAmpersand c := by decide
  exact ⟨hkeys, htarget, by decide +kernel, hscope, hplain hkeys htarget hcombinator⟩

end Declaration

end StyleObjects
