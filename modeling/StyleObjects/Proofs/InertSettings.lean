import Mathlib.Data.List.Basic
import StyleObjects.Compile

/-!
# Settings without effect

A record may ignore objects, name objects that its module does not define, and leave settings
empty.  None of these can be seen in its sheet, so that they can be cleared away: what remains
compiles to the same sheet with the same collisions, and has no dangling names.

Main results:

- `Record.SameInput.compile`: a sheet depends on the effective settings of compiled objects only.
- `Record.compile_withoutInert`: clearing away the settings without effect changes no sheet.
-/

namespace StyleObjects

/-! ## Effective values -/

@[simp] theorem nonEmpty_nonEmpty (s : Option String) : nonEmpty (nonEmpty s) = nonEmpty s := by
  cases s with
  | none => rfl
  | some value => by_cases hvalue : value = "" <;> simp [nonEmpty, Option.filter, hvalue]

/-- A setting that counts is not empty. -/
theorem nonEmpty_ne_some_empty (s : Option String) : nonEmpty s ≠ some "" := by
  intro h
  obtain ⟨-, hne⟩ := Option.filter_eq_some_iff.1 h
  simp at hne

/-- Dropping empty values and the values of other names makes no difference to the effective value
of a name. -/
theorem nonEmpty_get?_filter {d : Dict String} {keep : String → Bool} {name : String}
    (h : keep name = true) :
    nonEmpty ((d.filter fun name value => value != "" && keep name).get? name) =
      nonEmpty (d.get? name) := by
  rw [Dict.get?_filter]
  cases d.get? name with
  | none => rfl
  | some value => by_cases hvalue : value = "" <;> simp [nonEmpty, Option.filter, h, hvalue]

namespace Record

/-! ## What compiling reads -/

/-- Whether two records agree on everything that compiling them reads. -/
structure SameInput (r s : Record) : Prop where
  name : r.name = s.name
  map : r.map = s.map
  base : r.base = s.base
  compiled : r.compiled = s.compiled
  overrideFor : ∀ e ∈ r.compiled, r.overrideFor e.1 = s.overrideFor e.1
  combinatorFor : ∀ e ∈ r.compiled, r.combinatorFor e.1 = s.combinatorFor e.1

namespace SameInput

variable {r s : Record}

/-- Records with the same input give their objects the same selectors. -/
theorem resolve (h : SameInput r s) {e : String × Declaration} (he : e ∈ r.compiled) :
    r.resolve e.1 r.base = s.resolve e.1 s.base := by
  rw [Record.resolve, Record.resolve, h.overrideFor e he, h.combinatorFor e he, h.base]

theorem scope (h : SameInput r s) {e : String × Declaration} (he : e ∈ r.compiled) :
    r.scope e.1 = s.scope e.1 := by
  rw [Record.scope, Record.scope, h.resolve he, h.map]

theorem blocks (h : SameInput r s) : r.blocks = s.blocks := by
  rw [Record.blocks, Record.blocks, ← h.compiled]
  apply List.flatMap_congr
  intro e he
  rw [h.scope he]

/-- The lookup maps and the collisions are the same. -/
theorem lookup (h : SameInput r s) : r.lookup = s.lookup := by
  rw [Record.lookup, Record.lookup, ← h.compiled]
  apply congrArg
  apply List.map_congr_left
  intro e he
  rw [h.resolve he]

/-- A sheet depends on the effective settings of compiled objects only. -/
theorem compile (h : SameInput r s) : r.compile = s.compile := by
  rw [Record.compile, Record.compile, Record.css, Record.css, h.blocks, h.lookup, h.name]

end SameInput

/-! ## Clearing away -/

/-- The record with the objects that pass a test alone. -/
def keepObjects (r : Record) (keep : String → Bool) : Record :=
  { r with styles := r.styles.filter keep }

/-- The record without what has no effect: ignored objects are deleted, and a setting is dropped
if it is empty or belongs to no object that is left. -/
def withoutInert (r : Record) : Record :=
  let styles := r.styles.filter fun object => !r.isIgnored object
  let effective := fun object selector => selector != "" && styles.has object
  { r with
    prepend := nonEmpty r.prepend
    overrides := r.overrides.filter effective
    combinators := r.combinators.filter effective
    ignore := []
    version := nonEmpty r.version
    styles }

/-- Compiled objects are defined by the module. -/
theorem has_of_mem_compiled {r : Record} {e : String × Declaration} (he : e ∈ r.compiled) :
    r.styles.has e.1 = true :=
  StyleModule.has_eq_true_iff.2 ⟨e, (List.mem_filter.1 he).1, rfl⟩

/-- Compiled objects are not ignored. -/
theorem not_isIgnored_of_mem_compiled {r : Record} {e : String × Declaration}
    (he : e ∈ r.compiled) : r.isIgnored e.1 = false := by
  simpa using (List.mem_filter.1 he).2

/-- Without inert settings the same objects are compiled. -/
theorem compiled_withoutInert (r : Record) : r.withoutInert.compiled = r.compiled := by
  simp [compiled, withoutInert, isIgnored]

/-- Nothing that compiling reads is cleared away. -/
theorem sameInput_withoutInert (r : Record) : SameInput r.withoutInert r where
  name := rfl
  map := rfl
  base := by
    simp [base, effectivePrepend, effectiveVersion, withoutInert]
  compiled := r.compiled_withoutInert
  overrideFor := by
    intro e he
    rw [compiled_withoutInert] at he
    apply nonEmpty_get?_filter
    simp [has_of_mem_compiled he, not_isIgnored_of_mem_compiled he]
  combinatorFor := by
    intro e he
    rw [compiled_withoutInert] at he
    apply nonEmpty_get?_filter
    simp [has_of_mem_compiled he, not_isIgnored_of_mem_compiled he]

/-- Every name in a setting that is left is an object that is left. -/
theorem dangling_withoutInert (r : Record) : r.withoutInert.dangling = [] := by
  have hnames (d : Dict String) : ∀ name ∈ (d.filter fun object selector =>
      selector != "" && r.withoutInert.styles.has object).names,
      r.withoutInert.styles.has name = true := by
    intro name hname
    obtain ⟨e, he, rfl⟩ := List.mem_map.1 hname
    have hkept := (List.mem_filter.1 he).2
    rw [Bool.and_eq_true] at hkept
    exact hkept.2
  rw [dangling, List.filter_eq_nil_iff]
  intro d hd
  simp only [settingNames, List.mem_append, List.mem_map] at hd
  rcases hd with (⟨name, hname, rfl⟩ | ⟨name, hname, rfl⟩) | ⟨name, hname, rfl⟩
  · simpa using hnames r.overrides name hname
  · simpa using hnames r.combinators name hname
  · cases hname

/-! ## Single settings -/

/-- Ignoring an object ignores no other one. -/
theorem isIgnored_withIgnored (r : Record) (object other : String) :
    (r.withIgnored object).isIgnored other = (r.isIgnored other || other == object) := by
  unfold withIgnored
  split
  · rename_i hignored
    by_cases hother : other = object
    · simp [hother, hignored]
    · simp [hother]
  · rw [Bool.eq_iff_iff]
    simp [isIgnored]

/-- Ignoring an object is the same as deleting it. -/
theorem sameInput_withIgnored (r : Record) (object : String) :
    SameInput (r.withIgnored object) (r.keepObjects (· != object)) := by
  have hsettings : (r.withIgnored object).name = r.name ∧ (r.withIgnored object).map = r.map ∧
      (r.withIgnored object).base = r.base ∧ (r.withIgnored object).styles = r.styles ∧
      (r.withIgnored object).overrides = r.overrides ∧
      (r.withIgnored object).combinators = r.combinators := by
    unfold withIgnored
    split <;> exact ⟨rfl, rfl, rfl, rfl, rfl, rfl⟩
  obtain ⟨hname, hmap, hbase, hstyles, hoverrides, hcombinators⟩ := hsettings
  refine ⟨hname, hmap, hbase, ?_, ?_, ?_⟩
  · rw [compiled, compiled, hstyles, keepObjects, StyleModule.entries_filter, List.filter_filter]
    apply List.filter_congr
    intro e _
    rw [isIgnored_withIgnored, Bool.not_or]
    rfl
  · intro e _
    rw [overrideFor, hoverrides]
    rfl
  · intro e _
    rw [combinatorFor, hcombinators]
    rfl

/-- Deleting an object that the module does not define changes nothing. -/
theorem keepObjects_ne_of_not_has {r : Record} {object : String}
    (h : r.styles.has object = false) : r.keepObjects (· != object) = r := by
  have hkept : r.styles.filter (· != object) = r.styles := by
    apply StyleModule.ext
    apply Dict.ext
    refine List.filter_eq_self.2 fun e he => ?_
    rw [bne_iff_ne]
    intro hobject
    have hhas : r.styles.has object = true := StyleModule.has_eq_true_iff.2 ⟨e, he, hobject⟩
    rw [h] at hhas
    cases hhas
  rw [keepObjects, hkept]

/-- An override of a name that no compiled object has makes no difference. -/
theorem sameInput_withOverride {r : Record} {object : String} (h : ∀ e ∈ r.compiled, e.1 ≠ object)
    (selector : String) : SameInput (r.withOverride object selector) r where
  name := rfl
  map := rfl
  base := rfl
  compiled := rfl
  overrideFor := by
    intro e he
    rw [overrideFor, withOverride, Dict.get?_insert, if_neg (h e he).symm]
    rfl
  combinatorFor := fun _ _ => rfl

/-- A combinator of a name that no compiled object has makes no difference. -/
theorem sameInput_withCombinator {r : Record} {object : String}
    (h : ∀ e ∈ r.compiled, e.1 ≠ object) (selector : String) :
    SameInput (r.withCombinator object selector) r where
  name := rfl
  map := rfl
  base := rfl
  compiled := rfl
  overrideFor := fun _ _ => rfl
  combinatorFor := by
    intro e he
    rw [combinatorFor, withCombinator, Dict.get?_insert, if_neg (h e he).symm]
    rfl

/-- The effective value of a name that is set to the empty string is that of an absent name. -/
theorem nonEmpty_get?_insert_empty (d : Dict String) (object other : String) :
    nonEmpty ((d.insert object "").get? other) =
      nonEmpty ((d.filter fun name _ => name != object).get? other) := by
  rw [Dict.get?_insert, Dict.get?_filter]
  by_cases hother : object = other
  · cases d.get? other <;> simp [hother, nonEmpty, Option.filter]
  · have hkeep : (other != object) = true := by simpa using Ne.symm hother
    cases d.get? other <;> simp [hother, hkeep, Option.filter]

/-- What has no effect can be cleared away: the sheet and its collisions stay the same, and no name
is left dangling.  So an object may as well be deleted as ignored, names that the module does not
define have no influence, and an empty setting is the same as none. -/
theorem compile_withoutInert (r : Record) :
    r.withoutInert.compile = r.compile ∧
    r.withoutInert.lookup.collisions = r.lookup.collisions ∧
    r.withoutInert.dangling = [] ∧
    r.withoutInert.warnings = r.lookup.collisions.map Collision.message ∧
    (∀ object, (r.withIgnored object).compile = (r.keepObjects (· != object)).compile) ∧
    (∀ object selector, r.styles.has object = false →
      (r.withOverride object selector).compile = r.compile ∧
      (r.withCombinator object selector).compile = r.compile ∧
      (r.withIgnored object).compile = r.compile) ∧
    { r with prepend := some "" }.compile = { r with prepend := none }.compile ∧
    { r with version := some "" }.compile = { r with version := none }.compile ∧
    (∀ object, (r.withOverride object "").compile =
      { r with overrides := r.overrides.filter fun name _ => name != object }.compile) ∧
    ∀ object, (r.withCombinator object "").compile =
      { r with combinators := r.combinators.filter fun name _ => name != object }.compile := by
  have hcleared := r.sameInput_withoutInert
  refine ⟨hcleared.compile, by rw [hcleared.lookup], r.dangling_withoutInert, ?_, ?_, ?_, ?_, ?_, ?_,
    ?_⟩
  · rw [warnings, r.dangling_withoutInert, hcleared.lookup]
    rfl
  · intro object
    exact (r.sameInput_withIgnored object).compile
  · intro object selector habsent
    have hne : ∀ e ∈ r.compiled, e.1 ≠ object := by
      rintro e he rfl
      rw [has_of_mem_compiled he] at habsent
      cases habsent
    refine ⟨(sameInput_withOverride hne selector).compile,
      (sameInput_withCombinator hne selector).compile, ?_⟩
    rw [(r.sameInput_withIgnored object).compile, keepObjects_ne_of_not_has habsent]
  · exact SameInput.compile ⟨rfl, rfl, rfl, rfl, fun _ _ => rfl, fun _ _ => rfl⟩
  · exact SameInput.compile ⟨rfl, rfl, rfl, rfl, fun _ _ => rfl, fun _ _ => rfl⟩
  · intro object
    exact SameInput.compile ⟨rfl, rfl, rfl, rfl,
      fun e _ => nonEmpty_get?_insert_empty r.overrides object e.1, fun _ _ => rfl⟩
  · intro object
    exact SameInput.compile ⟨rfl, rfl, rfl, rfl, fun _ _ => rfl,
      fun e _ => nonEmpty_get?_insert_empty r.combinators object e.1⟩

end Record

end StyleObjects
