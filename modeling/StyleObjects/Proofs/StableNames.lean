import StyleObjects.Proofs.WordDashes
import StyleObjects.Style.Property

/-!
# Stable names

Kebab case changes nothing in a name that is in kebab case already.  The walk looks at other
neighbours the second time, for a dash may stand between them and `İ` is written as two characters;
but what has been written consists of settled characters (`Kebab.IsSettled`), and these are written
as they stand whatever their neighbours are.

Some capitals have no small form, such as the letters of mathematics.  They are capitals still once
they have been written, so the results are about the names without them.

Main results:

- `losesCapitals_iff`: these are the names whose kebab case has no capitals.
- `kebabCase_stable`: kebab case and the names of properties are stable.
-/

namespace StyleObjects

open Unicode

/-- Whether the lowercase forms of all characters of a text are no capitals. -/
def LosesCapitals (s : String) : Prop :=
  ∀ c ∈ s.toList, ∀ d ∈ lower c, isUpper d = false

instance (s : String) : Decidable (LosesCapitals s) :=
  decidable_of_iff (s.toList.all fun c => (lower c).all fun d => !isUpper d)
    (by simp [LosesCapitals])

namespace Kebab

variable {c : Char} {s : List Char} {previous written : Option Char}

/-- Whether a character is written as it stands, whatever its neighbours are. -/
structure IsSettled (c : Char) : Prop where
  not_separator : isSeparator c = false
  not_upper : isUpper c = false
  lower_eq : lower c = [c]

/-- A dash is settled. -/
theorem isSettled_dash : IsSettled '-' :=
  ⟨by decide, by decide +kernel, by decide +kernel⟩

/-- No form of a kept character separates words. -/
theorem isSeparator_of_mem_lower {d : Char} (hc : isKept c = true) (h : d ∈ lower c) :
    isSeparator d = false := by
  rw [Bool.eq_false_iff]
  intro hsep
  have hlow : d.toNat < 97 := by
    rcases isSeparator_iff.1 hsep with rfl | rfl <;> decide
  rw [eq_of_mem_lower hlow h] at hsep
  exact Bool.eq_false_iff.1 (isKept_iff.1 hc).1 hsep

/-- A settled character stands for itself. -/
theorem IsSettled.piece (h : IsSettled c) (next : Option Char) :
    Kebab.piece previous written c next = [c] := by
  rw [piece_letter h.not_separator, leadingDash, h.not_upper, h.lower_eq]
  rfl

/-- Settled characters are written as they stand. -/
theorem writeFrom_of_isSettled (h : ∀ c ∈ s, IsSettled c) : writeFrom previous written s = s := by
  induction s generalizing previous written with
  | nil => rfl
  | cons c s ih =>
    rw [List.forall_mem_cons] at h
    rw [writeFrom, h.1.piece, ih h.2]
    rfl

/-- What is written is settled, if it holds no capitals. -/
theorem isSettled_of_mem_writeFrom {d : Char} (hd : d ∈ writeFrom previous written s)
    (hupper : isUpper d = false) : IsSettled d := by
  rcases mem_writeFrom hd with rfl | ⟨c, _, hkept, hform⟩
  · exact isSettled_dash
  · exact ⟨isSeparator_of_mem_lower hkept hform, hupper, lower_of_mem_lower hform⟩

/-- Every form of a kept character is written. -/
theorem mem_writeFrom_of_kept {d : Char} (hc : c ∈ s) (hkept : isKept c = true)
    (hd : d ∈ lower c) : d ∈ writeFrom previous written s := by
  have hletter : d ∈ letters s :=
    List.mem_flatMap.2 ⟨c, List.mem_filter.2 ⟨hc, hkept⟩, hd⟩
  rw [← undashed_writeFrom previous written] at hletter
  exact (List.mem_filter.1 hletter).1

end Kebab

open Kebab

/-- ASCII names lose all their capitals. -/
theorem losesCapitals_of_ascii {s : String} (h : ∀ c ∈ s.toList, c.toNat < 128) :
    LosesCapitals s := fun c hc _ hd =>
  isUpper_of_mem_lower_ascii (h c hc) hd

/-- The names that lose their capitals are those whose kebab case has none. -/
theorem losesCapitals_iff {s : String} :
    LosesCapitals s ↔ ∀ d ∈ (kebabCase s).toList, isUpper d = false := by
  rw [kebabCase, String.toList_ofList]
  constructor
  · intro h d hd
    rcases mem_writeFrom hd with rfl | ⟨c, hc, _, hform⟩
    · exact isSettled_dash.not_upper
    · exact h c hc d hform
  · intro h c hc d hd
    cases hkept : isKept c with
    | true => exact h d (mem_writeFrom_of_kept hc hkept hd)
    | false =>
      have hmark : c.toNat < 128 := by
        rcases isKept_eq_false_iff.1 hkept with rfl | rfl | rfl <;> decide
      exact isUpper_of_mem_lower_ascii hmark hd

/-- Names that lose their capitals are written in settled characters. -/
theorem LosesCapitals.isSettled {s : String} (h : LosesCapitals s) :
    ∀ d ∈ (kebabCase s).toList, IsSettled d := by
  intro d hd
  have hupper := losesCapitals_iff.1 h d hd
  rw [kebabCase, String.toList_ofList] at hd
  exact isSettled_of_mem_writeFrom hd hupper

/-- A name of settled characters is in kebab case already. -/
theorem kebabCase_of_isSettled {s : String} (h : ∀ c ∈ s.toList, IsSettled c) :
    kebabCase s = s := by
  rw [kebabCase, write, writeFrom_of_isSettled h, String.ofList_toList]

/-- Kebab case is kept once it is reached. -/
theorem LosesCapitals.kebabCase_kebabCase {s : String} (h : LosesCapitals s) :
    kebabCase (kebabCase s) = kebabCase s :=
  kebabCase_of_isSettled h.isSettled

/-- The name of a property is its own name as a property: it has a dash, or it is a single word in
kebab case. -/
theorem LosesCapitals.propertyName_propertyName {key : String} (h : LosesCapitals key) :
    propertyName (propertyName key) = propertyName key := by
  by_cases hdash : '-' ∈ (propertyName key).toList
  · exact propertyName_of_dash hdash
  · have hkey : '-' ∉ key.toList := fun hmem =>
      hdash (by rwa [propertyName_of_dash hmem])
    have hvendor : keyStarts "webkit-" (kebabCase key) = false := by
      rw [Bool.eq_false_iff]
      intro hstarts
      rw [propertyName, if_neg hkey] at hdash
      simp [hstarts] at hdash
    have hname : propertyName key = kebabCase key := by
      rw [propertyName, if_neg hkey]
      simp [hvendor]
    rw [hname] at hdash ⊢
    rw [propertyName, if_neg hdash, h.kebabCase_kebabCase]
    simp [hvendor]

/-- If the lowercase forms of all characters of a name are no capitals, as those of ASCII characters
are not, then its kebab case has no capitals, spaces and underscores, and is its own kebab case; the
name is its kebab case if it has no spaces and underscores and consists of lowercase forms; and the
name of the property is the name of the property of that name. -/
theorem kebabCase_stable (name : String) :
    ((∀ c ∈ name.toList, c.toNat < 128) → LosesCapitals name) ∧
    (LosesCapitals name →
      (∀ d ∈ (kebabCase name).toList, isUpper d = false ∧ d ≠ ' ' ∧ d ≠ '_') ∧
      kebabCase (kebabCase name) = kebabCase name ∧
      ((∀ c ∈ name.toList, c ≠ ' ' ∧ c ≠ '_' ∧ lower c = [c]) → kebabCase name = name) ∧
      propertyName (propertyName name) = propertyName name) := by
  refine ⟨losesCapitals_of_ascii, fun h => ⟨fun d hd => ?_, h.kebabCase_kebabCase, fun hlower => ?_,
    h.propertyName_propertyName⟩⟩
  · have hsettled := h.isSettled d hd
    have hmarks : ¬(d = ' ' ∨ d = '_') := fun hmark =>
      Bool.eq_false_iff.1 hsettled.not_separator (isSeparator_iff.2 hmark)
    exact ⟨hsettled.not_upper, not_or.1 hmarks⟩
  · refine kebabCase_of_isSettled fun c hc => ?_
    obtain ⟨hspace, hunderscore, hform⟩ := hlower c hc
    have hsep : isSeparator c = false :=
      Bool.eq_false_iff.2 fun hsep => (isSeparator_iff.1 hsep).elim hspace hunderscore
    exact ⟨hsep, h c hc c (by simp [hform]), hform⟩

theorem kebabCase_stable_sample :
    LosesCapitals "WebkitHTML_2BoxİAb" ∧
    propertyName "WebkitHTML_2BoxİAb" = "-webkit-html-2-box-i\u0307-ab" ∧
    kebabCase (kebabCase "WebkitHTML_2BoxİAb") = kebabCase "WebkitHTML_2BoxİAb" ∧
    propertyName (propertyName "WebkitHTML_2BoxİAb") = propertyName "WebkitHTML_2BoxİAb" ∧
    LosesCapitals "already-kebab" ∧ kebabCase "already-kebab" = "already-kebab" := by
  have hloses : LosesCapitals "WebkitHTML_2BoxİAb" := by decide +kernel
  obtain ⟨_, hkebab, _, hproperty⟩ := (kebabCase_stable "WebkitHTML_2BoxİAb").2 hloses
  have hascii : LosesCapitals "already-kebab" :=
    (kebabCase_stable "already-kebab").1 (by simp)
  have hforms : ("already-kebab".toList.all fun c =>
      decide (c ≠ ' ' ∧ c ≠ '_' ∧ lower c = [c])) = true := by
    decide +kernel
  obtain ⟨_, _, hfixed, _⟩ := (kebabCase_stable "already-kebab").2 hascii
  exact ⟨hloses, by decide +kernel, hkebab, hproperty, hascii,
    hfixed fun c hc => of_decide_eq_true (List.all_eq_true.1 hforms c hc)⟩

end StyleObjects
