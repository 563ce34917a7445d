import Mathlib.Data.List.Dedup
import StyleObjects.Proofs.LookupMaps

/-!
# Collisions of derived selectors

A selector that is derived from the name of an object is the base prefix, if the prefix ends with the
kebab case of the name, and is longer than the prefix otherwise.  So objects share a derived selector
in two ways: their names have the same kebab case, or the prefix ends with both.

Main results:

- `derivedTarget_eq_iff`: when two names give the same selector.
- `Lookup.Follows.collisions_eq_nil_iff`: without collisions, no selector is reported twice.
- `Record.compile_derived`: when the maps of a sheet undo each other, if all selectors are derived.
-/

namespace StyleObjects

/-! ## Names and prefixes -/

/-- Whether a prefix ends with the kebab case of a name. -/
def EndsWithName (base object : String) : Prop :=
  (kebabCase object).toList <:+ base.toList

instance (base object : String) : Decidable (EndsWithName base object) :=
  inferInstanceAs (Decidable (_ <:+ _))

/-- What stands between a prefix and a name. -/
def nameSeparator (base : String) : String :=
  if base = barePrefix then "" else "-"

/-- A prefix that ends with the name of an object is its target already. -/
theorem derivedTarget_of_endsWithName {base object : String} (h : EndsWithName base object) :
    derivedTarget base object = base := by
  have hsuffix : (kebabCase object).toList.isSuffixOf base.toList = true :=
    List.isSuffixOf_iff_suffix.2 h
  rw [derivedTarget, if_pos hsuffix]

/-- Any other prefix is followed by the name in kebab case. -/
theorem derivedTarget_of_not_endsWithName {base object : String} (h : ¬ EndsWithName base object) :
    derivedTarget base object = base ++ nameSeparator base ++ kebabCase object := by
  have hsuffix : ¬ (kebabCase object).toList.isSuffixOf base.toList = true := fun hs =>
    h (List.isSuffixOf_iff_suffix.1 hs)
  rw [derivedTarget, if_neg hsuffix, nameSeparator]
  split
  · rw [String.append_empty]
  · rfl

/-- A name that the prefix does not end with is not empty, so it makes the selector longer. -/
theorem derivedTarget_ne_base {base object : String} (h : ¬ EndsWithName base object) :
    derivedTarget base object ≠ base := by
  intro heq
  have hlist : base.toList ++ ((nameSeparator base).toList ++ (kebabCase object).toList) =
      base.toList := by
    rw [← List.append_assoc, ← String.toList_append, ← String.toList_append,
      ← derivedTarget_of_not_endsWithName h, heq]
  have hname : (kebabCase object).toList = [] :=
    (List.append_eq_nil_iff.1 (List.append_right_eq_self.1 hlist)).2
  apply h
  rw [EndsWithName, hname]
  exact List.nil_suffix

/-- Two names give the same selector if they have the same kebab case, or if the prefix ends with
both. -/
theorem derivedTarget_eq_iff {base first second : String} :
    derivedTarget base first = derivedTarget base second ↔
      kebabCase first = kebabCase second ∨
        (EndsWithName base first ∧ EndsWithName base second) := by
  by_cases hfirst : EndsWithName base first <;> by_cases hsecond : EndsWithName base second
  · simp [derivedTarget_of_endsWithName, hfirst, hsecond]
  · have hkebab : kebabCase first ≠ kebabCase second := fun hsame =>
      hsecond (show _ <:+ _ from hsame ▸ hfirst)
    simp [derivedTarget_of_endsWithName hfirst, (derivedTarget_ne_base hsecond).symm, hkebab, hsecond]
  · have hkebab : kebabCase first ≠ kebabCase second := fun hsame =>
      hfirst (show _ <:+ _ from hsame ▸ hsecond)
    simp [derivedTarget_of_endsWithName hsecond, derivedTarget_ne_base hfirst, hkebab, hfirst]
  · rw [derivedTarget_of_not_endsWithName hfirst, derivedTarget_of_not_endsWithName hsecond]
    simp [hfirst]

/-! ## Reports without collisions -/

namespace Lookup.Follows

variable {reported : List (String × String)} {l : Lookup}

/-- There is no collision exactly if no selector is reported twice. -/
theorem collisions_eq_nil_iff (h : Follows reported l) :
    l.collisions = [] ↔ (reported.map (·.2)).Nodup := by
  have hkeys : (l.objects.map (·.1)).Perm (reported.map (·.2)).dedup := by
    rw [List.perm_ext_iff_of_nodup h.nodup_keys (List.nodup_dedup _)]
    simp only [List.mem_dedup, h.mem_keys_iff, implies_true]
  have hlength : l.objects.length = (reported.map (·.2)).dedup.length := by
    simpa using hkeys.length_eq
  have hcount := h.count
  rw [← List.dedup_eq_self, ← List.length_eq_zero_iff]
  constructor
  · intro hzero
    apply (List.dedup_sublist _).eq_of_length
    rw [← hlength, List.length_map]
    omega
  · intro hsame
    rw [hsame, List.length_map] at hlength
    omega

end Lookup.Follows

/-! ## Records -/

namespace Record

/-- The names of the objects that are compiled, in ascending order. -/
def compiledNames (r : Record) : List String :=
  r.styles.names.filter fun o => !r.isIgnored o

/-- Whether the selectors of all compiled objects are derived from their names. -/
def DerivesSelectors (r : Record) : Prop :=
  ∀ o ∈ r.compiledNames, r.overrideFor o = none ∧ r.combinatorFor o = none

instance (r : Record) : Decidable r.DerivesSelectors :=
  inferInstanceAs (Decidable (∀ o ∈ r.compiledNames, _))

/-- No object is compiled twice. -/
theorem nodup_compiledNames (r : Record) : r.compiledNames.Nodup :=
  (r.styles.objects.names_ascending.imp String.ne_of_lt).filter _

/-- Without settings of its own an object reports its derived target. -/
theorem resolve_of_derived {r : Record} {object base : String} (hoverride : r.overrideFor object = none)
    (hcombinator : r.combinatorFor object = none) :
    (r.resolve object base).target = derivedTarget base object ∧
      (r.resolve object base).reported = derivedTarget base object := by
  simp [resolve, hoverride, hcombinator]

namespace DerivesSelectors

variable {r : Record}

/-- So do all objects of a record without such settings. -/
theorem resolve (h : r.DerivesSelectors) {o : String} (ho : o ∈ r.compiledNames) :
    (r.resolve o r.base).target = derivedTarget r.base o ∧
      (r.resolve o r.base).reported = derivedTarget r.base o :=
  resolve_of_derived (h o ho).1 (h o ho).2

/-- Every compiled object is reported with the selector that is derived from its name. -/
theorem reported_eq (h : r.DerivesSelectors) :
    r.reported = r.compiledNames.map fun o => (o, derivedTarget r.base o) := by
  refine List.map_congr_left ?_
  intro o ho
  rw [(h o ho).2, (h.resolve ho).1, Option.getD_none]

/-- Each object reports its derived target, and nothing else is reported. -/
theorem mem_reported_iff (h : r.DerivesSelectors) {object selector : String} :
    (object, selector) ∈ r.reported ↔
      object ∈ r.compiledNames ∧ derivedTarget r.base object = selector := by
  rw [h.reported_eq]
  simp

/-- No selector is reported twice exactly if the names differ in kebab case and the prefix ends with
one of them at most. -/
theorem injective_iff (h : r.DerivesSelectors) :
    (∀ first second selector, (first, selector) ∈ r.reported → (second, selector) ∈ r.reported →
        first = second) ↔
      (r.compiledNames.map kebabCase).Nodup ∧
        ∀ first ∈ r.compiledNames, ∀ second ∈ r.compiledNames,
          EndsWithName r.base first → EndsWithName r.base second → first = second := by
  rw [List.nodup_map_iff_inj_on r.nodup_compiledNames]
  simp only [h.mem_reported_iff]
  constructor
  · intro hinjective
    constructor
    · intro first hfirst second hsecond hkebab
      exact hinjective first second _ ⟨hfirst, rfl⟩
        ⟨hsecond, derivedTarget_eq_iff.2 (.inl hkebab.symm)⟩
    · intro first hfirst second hsecond hends hends'
      exact hinjective first second _ ⟨hfirst, rfl⟩
        ⟨hsecond, derivedTarget_eq_iff.2 (.inr ⟨hends', hends⟩)⟩
  · rintro ⟨hkebab, hends⟩ first second selector ⟨hfirst, rfl⟩ ⟨hsecond, hsame⟩
    rcases derivedTarget_eq_iff.1 hsame with hsame | ⟨hsuffix', hsuffix⟩
    · exact (hkebab second hsecond first hfirst hsame).symm
    · exact hends first hfirst second hsecond hsuffix hsuffix'

/-- No selector is reported twice exactly if no two objects share one. -/
theorem nodup_selectors_iff (h : r.DerivesSelectors) :
    (r.reported.map (·.2)).Nodup ↔
      ∀ first second selector, (first, selector) ∈ r.reported → (second, selector) ∈ r.reported →
        first = second := by
  rw [h.reported_eq, List.map_map, List.nodup_map_iff_inj_on r.nodup_compiledNames]
  simp only [List.mem_map, Prod.mk.injEq, Function.comp_apply]
  constructor
  · rintro hinjective _ _ _ ⟨first, hfirst, rfl, rfl⟩ ⟨second, hsecond, rfl, hsame⟩
    exact hinjective first hfirst second hsecond hsame.symm
  · intro hinjective first hfirst second hsecond hsame
    exact hinjective first second _ ⟨first, hfirst, rfl, rfl⟩ ⟨second, hsecond, rfl, hsame.symm⟩

end DerivesSelectors

/-- If all selectors are derived, then two objects have the same selector exactly if their names have
the same kebab case or the base prefix ends with both.  So the maps of the sheet undo each other, and
no collision is reported, exactly if the names differ in kebab case and the prefix ends with one of
them at most. -/
theorem compile_derived {r : Record} (h : r.DerivesSelectors) :
    r.base = basePrefix r.effectivePrepend r.effectiveVersion ∧
    (∀ o ∈ r.compiledNames, r.compile.selectorFor o = some (r.resolve o r.base).target) ∧
    (∀ first ∈ r.compiledNames, ∀ second ∈ r.compiledNames, first ≠ second →
      (r.compile.selectorFor first = r.compile.selectorFor second ↔
        kebabCase first = kebabCase second ∨
          ((kebabCase first).toList <:+ r.base.toList ∧
            (kebabCase second).toList <:+ r.base.toList))) ∧
    ((∀ object selector, r.compile.selectorFor object = some selector ↔
        r.compile.objectFor selector = some object) ↔
      (r.compiledNames.map kebabCase).Nodup ∧
        ∀ first ∈ r.compiledNames, ∀ second ∈ r.compiledNames,
          (kebabCase first).toList <:+ r.base.toList →
          (kebabCase second).toList <:+ r.base.toList → first = second) ∧
    (r.warnings = r.dangling.map DanglingName.message ↔
      (r.compiledNames.map kebabCase).Nodup ∧
        ∀ first ∈ r.compiledNames, ∀ second ∈ r.compiledNames,
          (kebabCase first).toList <:+ r.base.toList →
          (kebabCase second).toList <:+ r.base.toList → first = second) := by
  have hfollows := r.follows_lookup
  have hselector (object selector : String) : r.compile.selectorFor object = some selector ↔
      (object, selector) ∈ r.reported :=
    hfollows.selectorFor_eq_some_iff r.ascending_reported
  have hderived : ∀ o ∈ r.compiledNames,
      r.compile.selectorFor o = some (derivedTarget r.base o) := fun o ho =>
    (hselector o _).2 (h.mem_reported_iff.2 ⟨ho, rfl⟩)
  refine ⟨rfl, ?_, ?_, ?_, ?_⟩
  · intro o ho
    rw [hderived o ho, (h.resolve ho).1]
  · intro first hfirst second hsecond _
    rw [hderived first hfirst, hderived second hsecond, Option.some.injEq]
    exact derivedTarget_eq_iff
  · simp only [hselector]
    exact hfollows.inverse_iff.trans h.injective_iff
  · have hwarnings : r.warnings = r.dangling.map DanglingName.message ↔ r.lookup.collisions = [] := by
      simp [warnings]
    rw [hwarnings, hfollows.collisions_eq_nil_iff, h.nodup_selectors_iff]
    exact h.injective_iff

/-- The prefix of this record ends with the names of two of its objects. -/
def derivedSample : Record :=
  { Record.ofModule (.ofList [("card", .nil), ("appCard", .nil), ("page", .nil), ("tab", .nil)]) with
    version := some "1.app.card"
    ignore := ["tab", "gone"] }

theorem compile_derived_sample :
    derivedSample.DerivesSelectors ∧ derivedSample.base = ".v1-app-card" ∧
      derivedSample.compile.selectorFor "card" = derivedSample.compile.selectorFor "appCard" ∧
      derivedSample.compile.selectorFor "card" ≠ derivedSample.compile.selectorFor "page" ∧
      derivedSample.warnings ≠ derivedSample.dangling.map DanglingName.message := by
  have hderived : derivedSample.DerivesSelectors := by decide +kernel
  obtain ⟨_, _, hsame, _, hwarnings⟩ := compile_derived hderived
  refine ⟨hderived, by decide +kernel, ?_, ?_, ?_⟩
  · exact (hsame "card" (by decide +kernel) "appCard" (by decide +kernel) (by decide)).2
      (by decide +kernel)
  · exact fun h => absurd
      ((hsame "card" (by decide +kernel) "page" (by decide +kernel) (by decide)).1 h)
      (by decide +kernel)
  · intro h
    have hends := (hwarnings.1 h).2 "card" (by decide +kernel) "appCard" (by decide +kernel)
      (by decide +kernel) (by decide +kernel)
    exact absurd hends (by decide)

end Record

end StyleObjects
