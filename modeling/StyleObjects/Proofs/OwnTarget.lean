import StyleObjects.Proofs.DerivedSelectors
import StyleObjects.Proofs.InertSettings
import StyleObjects.Proofs.NestedBlocks
import StyleObjects.Proofs.Sweeping

/-!
# Overrides that repeat the target

An object may be overridden with the very target that is derived from its name.  Its rules attach to
the same selector then, and the lookup maps stay the same.  Only what `&` stands for can change:
with an override it is the base prefix even if that is the bare one, where without an override it is
the target.  The change shows in rules that a key with `&` at the top level composes, outside of
media queries and in each of them, and nowhere else.

Main results:

- `Declaration.filter_rules_congr`: a combinator counts for top-level keys with `&` alone.
- `MediaQuery.layout_congr`: media queries have the same lines if the rules in them are the same.
- `Record.compile_withOwnTarget`: when an override that repeats the target changes nothing.
-/

namespace StyleObjects

/-! ## Where the combinator counts -/

/-- Whether the `&` in the key of a rule stands for the combinator. -/
def takesCombinator (key : String) : Bool :=
  isRuleKey key && !keyStarts ":" key && key.toList.contains '&'

/-- The combinator does not count for a key that does not take it. -/
theorem composed_congr {key : String} (hrule : isRuleKey key = true)
    (h : takesCombinator key = false) (parent : String) (combinator other : Option String) :
    composed parent combinator key = composed parent other key := by
  rw [takesCombinator, hrule, Bool.true_and, Bool.and_eq_false_iff] at h
  rcases h with hpseudo | hplain
  · have hstart : keyStarts ":" key = true := by simpa using hpseudo
    rw [composed, composed, if_pos hstart, if_pos hstart]
  · have hnone : '&' ∉ key.toList := by simpa using hplain
    rw [composed, composed, if_neg hnone, if_neg hnone]

/-- A combinator that is the parent itself makes no difference. -/
theorem composed_self (parent key : String) :
    composed parent (some parent) key = composed parent none key := rfl

namespace Declaration

/-- Whether a declaration has no rule to write, under whatever selector. -/
def IsSilent (d : Declaration) : Prop :=
  ∀ rule ∈ d.rules "" none, rule.isWritten = false

instance (d : Declaration) : Decidable d.IsSilent :=
  inferInstanceAs (Decidable (∀ rule ∈ d.rules "" none, rule.isWritten = false))

/-- The declarations of the rules do not depend on the selectors. -/
theorem map_declarations_rules (d : Declaration) (selector other : String)
    (combinator combinator' : Option String) :
    (d.rules selector combinator).map (·.declarations) =
      (d.rules other combinator').map (·.declarations) := by
  simp only [rules, List.map_cons, nestedRules_eq_filter, List.map_map]
  rfl

/-- No rule of a silent declaration is written. -/
theorem IsSilent.filter_rules {d : Declaration} (h : d.IsSilent) (selector : String)
    (combinator : Option String) : (d.rules selector combinator).filter Rule.isWritten = [] := by
  rw [List.filter_eq_nil_iff]
  intro rule hrule
  have hmem : rule.declarations ∈ (d.rules "" none).map (·.declarations) := by
    rw [d.map_declarations_rules "" selector none combinator]
    exact List.mem_map_of_mem hrule
  obtain ⟨other, hother, hsame⟩ := List.mem_map.1 hmem
  have hnone := h other hother
  rw [Rule.isWritten, hsame] at hnone
  simpa [Rule.isWritten] using hnone

/-- Whether the combinator counts for no rule that is written at this level: a key that takes it has
a block without such rules. -/
def CombinatorUnusedHere (d : Declaration) : Prop :=
  ∀ e ∈ d.entries, takesCombinator e.1 = true → ∀ body ∈ e.2.block?, body.IsSilent

instance (d : Declaration) : Decidable d.CombinatorUnusedHere :=
  inferInstanceAs (Decidable (∀ e ∈ d.entries, takesCombinator e.1 = true →
    ∀ body ∈ e.2.block?, body.IsSilent))

/-- Whether the combinator counts for no rule that is written, nor for one in a media query. -/
def CombinatorUnused (d : Declaration) : Prop :=
  d.CombinatorUnusedHere ∧
    ∀ b ∈ MediaQuery.foundAll [] d.mediaQueries, b.body.CombinatorUnusedHere

instance (d : Declaration) : Decidable d.CombinatorUnused :=
  inferInstanceAs (Decidable (_ ∧ ∀ b ∈ MediaQuery.foundAll [] d.mediaQueries, _))

/-- Whether two combinators compose the same selectors from the keys of a declaration, as far as
these have rules to write. -/
def SameRules (d : Declaration) (selector : String) (combinator other : Option String) : Prop :=
  ∀ e ∈ d.entries, isRuleKey e.1 = true → ∀ body ∈ e.2.block?,
    composed selector combinator e.1 = composed selector other e.1 ∨ body.IsSilent

/-- Where no key takes the combinator, it does not change the rules. -/
theorem CombinatorUnusedHere.sameRules {d : Declaration} (h : d.CombinatorUnusedHere)
    (selector : String) (combinator other : Option String) :
    d.SameRules selector combinator other := by
  intro e he hrule body hbody
  cases htakes : takesCombinator e.1 with
  | false => exact .inl (composed_congr hrule htakes selector combinator other)
  | true => exact .inr (h e he htakes body hbody)

/-- Then the rules that are written are the same. -/
theorem filter_rules_congr {d : Declaration} {selector : String} {combinator other : Option String}
    (h : d.SameRules selector combinator other) :
    (d.rules selector combinator).filter Rule.isWritten =
      (d.rules selector other).filter Rule.isWritten := by
  have hnested : (d.nestedRules selector combinator).filter Rule.isWritten =
      (d.nestedRules selector other).filter Rule.isWritten := by
    induction d using entry_induction with
    | nil => rfl
    | leaf key value rest hvalue ih =>
      rw [nestedRules_leaf hvalue, nestedRules_leaf hvalue]
      exact ih fun e he => h e (List.mem_cons_of_mem _ he)
    | block key body rest _ ih =>
      have hrest := ih fun e he => h e (List.mem_cons_of_mem _ he)
      rw [nestedRules_block, nestedRules_block, List.filter_append, List.filter_append, hrest]
      refine congrArg (· ++ _) ?_
      cases hkey : isRuleKey key with
      | false =>
        have hskipped := isRuleKey_eq_false_iff.1 hkey
        rw [if_pos hskipped, if_pos hskipped]
      | true =>
        have hrule : ¬ (key = labelKey ∨ isMediaKey key = true ∨ isKeyframesKey key = true) := by
          rw [← isRuleKey_eq_false_iff, hkey]
          decide
        rw [if_neg hrule, if_neg hrule]
        rcases h _ List.mem_cons_self hkey body rfl with hsame | hsilent
        · rw [hsame]
        · rw [hsilent.filter_rules, hsilent.filter_rules]
  rw [rules, rules, List.filter_cons, List.filter_cons, hnested]

end Declaration

/-! ## Objects -/

/-- Whether two combinators give an object the same rules to write, in each of its media queries
too. -/
def Declaration.SameIn (d : Declaration) (selector : String) (combinator other : Option String) :
    Prop :=
  d.SameRules selector combinator other ∧
    ∀ b ∈ MediaQuery.foundAll [] d.mediaQueries, b.body.SameRules selector combinator other

/-- A declaration looks the same with the same combinator. -/
theorem Declaration.sameIn_refl (d : Declaration) (selector : String) (combinator : Option String) :
    d.SameIn selector combinator combinator :=
  ⟨fun _ _ _ _ _ => .inl rfl, fun _ _ _ _ _ _ _ => .inl rfl⟩

/-- A combinator that is the target itself makes no difference to an object. -/
theorem Declaration.sameIn_self (d : Declaration) (selector : String) :
    d.SameIn selector none (some selector) :=
  ⟨fun e _ _ _ _ => .inl (composed_self selector e.1).symm,
    fun _ _ e _ _ _ _ => .inl (composed_self selector e.1).symm⟩

/-- Neither does one that counts nowhere. -/
theorem Declaration.CombinatorUnused.sameIn {d : Declaration} (h : d.CombinatorUnused)
    (selector : String) (combinator other : Option String) : d.SameIn selector combinator other :=
  ⟨h.1.sameRules selector combinator other,
    fun b hb => (h.2 b hb).sameRules selector combinator other⟩

mutual

/-- A media query has the same lines if the rules in it and in the media queries below are the
same. -/
theorem MediaQuery.layout_congr {selector : String} {combinator other : Option String}
    (label : Option String) (chain : List String) (depth : Nat) : ∀ media : MediaQuery,
    (∀ b ∈ media.found chain, b.body.SameRules selector combinator other) →
      media.layout ⟨selector, combinator, label⟩ depth = media.layout ⟨selector, other, label⟩ depth
  | .mk query body nested => by
    intro h
    have hbody : body.SameRules selector combinator other :=
      h ⟨chain, query, body⟩ (by simp [found])
    have hrules := Rule.separated_congr (Declaration.filter_rules_congr hbody) (depth + 1) label
    have hnested := layoutAll_congr label (chain ++ [query]) (depth + 1) nested
      fun b hb => h b (by simp [found, hb])
    simp only [layout, hrules, hnested]

/-- So do the lines of several media queries. -/
theorem MediaQuery.layoutAll_congr {selector : String} {combinator other : Option String}
    (label : Option String) (chain : List String) (depth : Nat) : ∀ medias : List MediaQuery,
    (∀ b ∈ foundAll chain medias, b.body.SameRules selector combinator other) →
      layoutAll ⟨selector, combinator, label⟩ depth medias =
        layoutAll ⟨selector, other, label⟩ depth medias
  | [] => fun _ => rfl
  | media :: rest => by
    intro h
    rw [layoutAll, layoutAll,
      layout_congr label chain depth media fun b hb => h b (by simp [foundAll, hb]),
      layoutAll_congr label chain depth rest fun b hb => h b (by simp [foundAll, hb])]

end

/-- Then it has the same lines. -/
theorem Declaration.SameIn.separated_blocks {d : Declaration} {selector : String}
    {combinator other : Option String} (h : d.SameIn selector combinator other)
    (label : Option String) :
    separated (d.blocks ⟨selector, combinator, label⟩) =
      separated (d.blocks ⟨selector, other, label⟩) := by
  have hmedia := MediaQuery.layoutAll_congr label [] 0 d.mediaQueries h.2
  refine separated_append_congr (separated_append_congr ?_ ?_) rfl
  · exact Rule.separated_congr (filter_rules_congr h.1) 0 label
  · rw [hmedia]

/-! ## Records -/

namespace Record

/-- A sheet has the same text if each of its objects has the same lines. -/
theorem css_congr {r s : Record} (hcompiled : s.compiled = r.compiled)
    (h : ∀ e ∈ r.compiled,
      separated (e.2.blocks (s.scope e.1)) = separated (e.2.blocks (r.scope e.1))) :
    s.css = r.css := by
  have hblocks : separated s.blocks = separated r.blocks := by
    rw [blocks, blocks, hcompiled, separated_flatMap, separated_flatMap]
    congr 1
    exact List.map_congr_left h
  rw [css, css, hblocks]

/-- A base prefix is never empty. -/
theorem base_ne_empty (r : Record) : r.base ≠ "" := by
  have hprepend : r.effectivePrepend ≠ some "" := nonEmpty_ne_some_empty r.prepend
  unfold base
  generalize r.effectivePrepend = prepend at hprepend ⊢
  generalize r.effectiveVersion = version
  cases prepend <;> cases version <;> simp_all [basePrefix, barePrefix]

/-- Neither is a target that is derived from it. -/
theorem derivedTarget_ne_empty {base : String} (h : base ≠ "") (object : String) :
    derivedTarget base object ≠ "" := by
  by_cases hends : EndsWithName base object
  · rw [derivedTarget_of_endsWithName hends]
    exact h
  · rw [derivedTarget_of_not_endsWithName hends]
    simp [h]

section OwnTarget

variable {r : Record} {o : String}

/-- Without an override an object has its derived target. -/
theorem resolve_of_not_overridden (h : r.overrideFor o = none) :
    r.resolve o r.base =
      { target := derivedTarget r.base o
        combinator := (r.combinatorFor o).or (if r.base = barePrefix then none else some r.base)
        reported := (r.combinatorFor o).getD (derivedTarget r.base o) } := by
  rw [resolve, h]

/-- With the target as its override, `&` stands for the base prefix unless there is a combinator. -/
theorem resolve_withOwnTarget (h : r.overrideFor o = none) :
    (r.withOverride o (r.resolve o r.base).target).resolve o r.base =
      { r.resolve o r.base with combinator := some ((r.combinatorFor o).getD r.base) } := by
  have hne := derivedTarget_ne_empty r.base_ne_empty o
  have hoverride : (r.withOverride o (derivedTarget r.base o)).overrideFor o =
      some (derivedTarget r.base o) := by
    simp [overrideFor, withOverride, nonEmpty, Option.filter, hne]
  rw [resolve_of_not_overridden h, resolve, hoverride]
  rfl

/-- The selectors of other objects do not change. -/
theorem resolve_withOverride_of_ne {object : String} (hne : o ≠ object) (selector : String) :
    (r.withOverride o selector).resolve object r.base = r.resolve object r.base := by
  have hoverride : (r.withOverride o selector).overrideFor object = r.overrideFor object := by
    simp [overrideFor, withOverride, hne]
  rw [resolve, resolve, hoverride]
  rfl

/-- So the lookup maps stay the same. -/
theorem lookup_withOwnTarget (h : r.overrideFor o = none) :
    (r.withOverride o (r.resolve o r.base).target).lookup = r.lookup := by
  rw [lookup, lookup]
  congr 1
  refine List.map_congr_left fun e _ => ?_
  have hreported : ((r.withOverride o (r.resolve o r.base).target).resolve e.1 r.base).reported =
      (r.resolve e.1 r.base).reported := by
    by_cases hname : o = e.1
    · rw [← hname, resolve_withOwnTarget h]
    · rw [resolve_withOverride_of_ne hname]
  exact congrArg (Prod.mk e.1) hreported

/-- A scope is made of the target and the meaning of `&`. -/
theorem scope_of_resolve {s : Record} {object : String} {combinator : Option String}
    (hmap : s.map = r.map)
    (htarget : (s.resolve object s.base).target = (r.resolve object r.base).target)
    (hcombinator : (s.resolve object s.base).combinator = combinator) :
    s.scope object = { r.scope object with combinator } := by
  simp only [scope, htarget, hcombinator, hmap]

/-- Only what `&` stands for in the object changes. -/
theorem scope_withOwnTarget (h : r.overrideFor o = none) (object : String) :
    (r.withOverride o (r.resolve o r.base).target).scope object =
      if o = object then { r.scope o with combinator := some ((r.combinatorFor o).getD r.base) }
      else r.scope object := by
  by_cases hname : o = object
  · subst hname
    have hresolve := resolve_withOwnTarget h
    rw [if_pos rfl]
    exact scope_of_resolve rfl (congrArg (·.target) hresolve) (congrArg (·.combinator) hresolve)
  · have hresolve := resolve_withOverride_of_ne (r := r) hname (r.resolve o r.base).target
    rw [if_neg hname]
    exact scope_of_resolve rfl (congrArg (·.target) hresolve) (congrArg (·.combinator) hresolve)

/-- The same holds if `&` is given this meaning by a combinator. -/
theorem scope_withCombinator (h : r.overrideFor o = none) {selector : String} (hne : selector ≠ "")
    (object : String) :
    (r.withCombinator o selector).scope object =
      if o = object then { r.scope o with combinator := some selector } else r.scope object := by
  by_cases hname : o = object
  · subst hname
    have hcombinator : (r.withCombinator o selector).combinatorFor o = some selector := by
      simp [combinatorFor, withCombinator, nonEmpty, Option.filter, hne]
    have hresolve := resolve_of_not_overridden (r := r.withCombinator o selector) h
    rw [hcombinator] at hresolve
    rw [if_pos rfl]
    refine scope_of_resolve rfl ?_ (congrArg (·.combinator) hresolve)
    rw [hresolve, resolve_of_not_overridden h]
    rfl
  · have hcombinator : (r.withCombinator o selector).combinatorFor object =
        r.combinatorFor object := by
      simp [combinatorFor, withCombinator, hname]
    have hresolve : (r.withCombinator o selector).resolve object r.base =
        r.resolve object r.base := by
      rw [resolve, resolve, hcombinator]
      rfl
    rw [if_neg hname]
    exact scope_of_resolve rfl (congrArg (·.target) hresolve) (congrArg (·.combinator) hresolve)

/-- The text is that of the record where `&` in the object stands for its combinator, or else for
the base prefix. -/
theorem css_withOwnTarget (h : r.overrideFor o = none) :
    (r.withOverride o (r.resolve o r.base).target).css =
      (r.withCombinator o ((r.combinatorFor o).getD r.base)).css := by
  have hne : (r.combinatorFor o).getD r.base ≠ "" := by
    cases hsome : r.combinatorFor o with
    | none => exact r.base_ne_empty
    | some c =>
      rintro rfl
      exact nonEmpty_ne_some_empty _ hsome
  refine css_congr rfl fun e _ => ?_
  rw [scope_withOwnTarget h, scope_withCombinator h hne]

/-- Where the meaning of `&` stays the same, or counts for no rule, the rules stay the same. -/
theorem sameIn_withOwnTarget (h : r.overrideFor o = none) {d : Declaration}
    (hkept : r.combinatorFor o ≠ none ∨ r.base ≠ barePrefix ∨
      (r.resolve o r.base).target = r.base ∨ d.CombinatorUnused) :
    d.SameIn (r.scope o).selector (r.scope o).combinator
      (some ((r.combinatorFor o).getD r.base)) := by
  have hscope : (r.scope o).combinator =
      (r.combinatorFor o).or (if r.base = barePrefix then none else some r.base) := by
    rw [scope, resolve_of_not_overridden h]
  have hselector : (r.scope o).selector = (r.resolve o r.base).target := rfl
  rw [hscope]
  cases hcombinator : r.combinatorFor o with
  | some c => exact d.sameIn_refl _ (some c)
  | none =>
    by_cases hbase : r.base = barePrefix
    · rw [if_pos hbase, Option.or_none, Option.getD_none]
      rcases hkept with hsome | hprefix | htarget | hunused
      · exact absurd hcombinator hsome
      · exact absurd hbase hprefix
      · rw [hselector, htarget]
        exact d.sameIn_self r.base
      · exact hunused.sameIn _ _ _
    · rw [if_neg hbase]
      exact d.sameIn_refl _ (some r.base)

/-- An object without an override may be overridden with its own target: its lookup entries stay the
same, and the text is that of the record where `&` stands for the combinator of the object, or else
for the base prefix.  So the sheet stays the same, unless the prefix is the bare one, the object has
no combinator, and some rule of it that is written comes from a key with `&` at the top level. -/
theorem compile_withOwnTarget (h : r.overrideFor o = none) :
    (r.withOverride o (r.resolve o r.base).target).name = r.name ∧
    (r.withOverride o (r.resolve o r.base).target).lookup = r.lookup ∧
    (r.withOverride o (r.resolve o r.base).target).css =
      (r.withCombinator o ((r.combinatorFor o).getD r.base)).css ∧
    ((∀ d, (o, d) ∈ r.compiled → r.combinatorFor o ≠ none ∨ r.base ≠ barePrefix ∨
        (r.resolve o r.base).target = r.base ∨ d.CombinatorUnused) →
      (r.withOverride o (r.resolve o r.base).target).compile = r.compile) := by
  have hlookup := lookup_withOwnTarget h
  refine ⟨rfl, hlookup, css_withOwnTarget h, fun hkept => ?_⟩
  have hcss : (r.withOverride o (r.resolve o r.base).target).css = r.css := by
    refine css_congr rfl fun e he => ?_
    rw [scope_withOwnTarget h]
    split
    · rename_i hname
      subst hname
      exact ((sameIn_withOwnTarget h (hkept e.2 he)).separated_blocks _).symm
    · rfl
  rw [compile, compile, hcss, hlookup]
  rfl

end OwnTarget

/-- Keys with `&` where the combinator does not count: in an empty rule, in a pseudo key, and below
the top level of a media query. -/
def ownTargetSample : Record :=
  Record.ofModule (.ofList [("card",
    .cons "& + &" (.block (.cons ":hover" (.block .nil) .nil))
      (.cons ":is(&)" (.block (.cons "top" (.text "0") .nil))
        (.cons "@media print" (.block (.cons "a" (.block
          (.cons "& b" (.block (.cons "top" (.text "1em") .nil)) .nil)) .nil)) .nil)))])

theorem compile_withOwnTarget_sample :
    ownTargetSample.overrideFor "card" = none ∧
    ownTargetSample.base = barePrefix ∧
    ownTargetSample.combinatorFor "card" = none ∧
    (ownTargetSample.resolve "card" ownTargetSample.base).target = ".card" ∧
    (ownTargetSample.withOverride "card" ".card").compile = ownTargetSample.compile := by
  have hoverride : ownTargetSample.overrideFor "card" = none := by decide +kernel
  have hunused : ∀ e ∈ ownTargetSample.compiled, e.2.CombinatorUnused := by decide +kernel
  have htarget : (ownTargetSample.resolve "card" ownTargetSample.base).target = ".card" := by
    decide +kernel
  obtain ⟨-, -, -, hcompile⟩ := compile_withOwnTarget hoverride
  have hsame := hcompile fun d hd => .inr (.inr (.inr (hunused _ hd)))
  rw [htarget] at hsame
  exact ⟨hoverride, by decide +kernel, by decide +kernel, htarget, hsame⟩

/-- An object that is repeated next to itself. -/
def repeatedObject : Record :=
  Record.ofModule (.ofList [("a",
    .cons "& + &" (.block (.cons "margin-top" (.text "0") .nil)) .nil)])

/-- With the bare prefix and no combinator, `&` stands for the target only as long as there is no
override. -/
theorem css_withOwnTarget_bare :
    repeatedObject.overrideFor "a" = none ∧ repeatedObject.styles.has "a" = true ∧
    (repeatedObject.resolve "a" repeatedObject.base).target = ".a" ∧
    repeatedObject.css = ".a + .a \x7b\n  margin-top: 0;\n\x7d" ∧
    (repeatedObject.withOverride "a" ".a").css = ". + . \x7b\n  margin-top: 0;\n\x7d" ∧
    (repeatedObject.withOverride "a" ".a").compile ≠ repeatedObject.compile := by
  have hcss : repeatedObject.css = ".a + .a \x7b\n  margin-top: 0;\n\x7d" := by
    rw [css_eq_intercalate (by decide +kernel)]
    decide +kernel
  have hoverridden : (repeatedObject.withOverride "a" ".a").css =
      ". + . \x7b\n  margin-top: 0;\n\x7d" := by
    rw [css_eq_intercalate (by decide +kernel)]
    decide +kernel
  refine ⟨by decide +kernel, by decide +kernel, by decide +kernel, hcss, hoverridden, ?_⟩
  intro hsame
  have htext : (repeatedObject.withOverride "a" ".a").css = repeatedObject.css :=
    congrArg Sheet.css hsame
  rw [hcss, hoverridden] at htext
  revert htext
  decide +kernel

end Record

end StyleObjects
