import StyleObjects.Unicode.LetterCase

/-!
# Lowercase forms

What the full lowercase mapping gives for a character.  The rows of the mapping carry characters to
letters from `a` on, and no row carries a character to one that another row, or the same, moves on.
So a second mapping changes nothing, and the marks below the small letters, such as the space and
the dash, are no form of another character.

Main results:

- `eq_or_le_of_mem_lower`: a form is the character itself, or not below the letter `a`.
- `lower_of_mem_lower`: a form is its own form.
- `isUpper_of_mem_lower_ascii`: no form of an ASCII character is a capital.
-/

namespace StyleObjects.Unicode

/-! ## Spans -/

/-- A span covers every so many code points between its ends. -/
theorem Span.covers_iff {s : Span} {n : Nat} :
    s.covers n = true ↔ (s.first ≤ n ∧ n ≤ s.last) ∧ (n - s.first) % s.step = 0 := by
  rw [covers, Bool.and_eq_true, Bool.and_eq_true, decide_eq_true_iff, decide_eq_true_iff,
    beq_iff_eq]

/-- A test for spans without a common code point: one ends before the other begins, or the second
skips every place of the first. -/
def Span.apart (s t : Span) : Bool :=
  s.last.blt t.first || t.last.blt s.first ||
    t.step == 2 && (s.step == 2 || s.first == s.last) && s.first % 2 != t.first % 2

/-- Spans that are apart cover nothing in common. -/
theorem Span.covers_of_apart {s t : Span} {n : Nat} (h : s.apart t = true)
    (hs : s.covers n = true) : t.covers n = false := by
  rw [Bool.eq_false_iff]
  intro ht
  obtain ⟨⟨hfirst, hlast⟩, hstep⟩ := covers_iff.1 hs
  obtain ⟨⟨hfirst', hlast'⟩, hstep'⟩ := covers_iff.1 ht
  simp only [apart, Bool.or_eq_true, Bool.and_eq_true, Nat.blt_eq, beq_iff_eq, bne_iff_ne] at h
  rcases h with (h | h) | ⟨⟨htwo, hsame | hsingle⟩, hparity⟩
  · omega
  · omega
  · rw [hsame] at hstep
    rw [htwo] at hstep'
    omega
  · rw [htwo] at hstep'
    omega

/-- The span of the code points to which a shift carries its own. -/
def Shift.targets (r : Shift) : Span :=
  ⟨r.move r.first, r.move r.last, r.step⟩

/-- A shift carries what it covers to its targets. -/
theorem Shift.targets_covers_move {r : Shift} {n : Nat} (hpos : 0 < r.targets.first)
    (h : r.covers n = true) : r.targets.covers (r.move n) = true := by
  obtain ⟨⟨hfirst, hlast⟩, hstep⟩ := Span.covers_iff.1 h
  simp only [targets, move] at hpos
  have hdistance : (n + r.distance).toNat - (r.first + r.distance).toNat = n - r.first := by
    omega
  exact Span.covers_iff.2
    ⟨⟨Int.toNat_le_toNat (by omega), Int.toNat_le_toNat (by omega)⟩, hdistance ▸ hstep⟩

/-! ## Rows of the mapping -/

theorem toNat_ofNat {n : Nat} (h : n.isValidChar) : (Char.ofNat n).toNat = n := by
  rw [Char.ofNat, dif_pos h]
  rfl

/-- The rows of the mapping lead to characters that are not below the letter `a`. -/
theorem targets_valid : ∀ r ∈ lowercaseShifts,
    97 ≤ r.targets.first ∧
      (r.targets.last < 0xD800 ∨ 0xDFFF < r.targets.first ∧ r.targets.last < 0x110000) := by
  decide +kernel

/-- No row leads to a character that a row moves. -/
theorem targets_apart :
    (lowercaseShifts.all fun r => lowercaseShifts.all fun s =>
      r.targets.apart s.toSpan) = true := by
  decide +kernel

/-- No shift to lowercase leads to the dotted capital I. -/
theorem targets_apart_dotted :
    ∀ r ∈ lowercaseShifts, r.targets.apart ⟨'İ'.toNat, 'İ'.toNat, 1⟩ = true := by
  decide +kernel

/-- A shift to lowercase carries what it covers to its targets. -/
theorem targets_covers_move {r : Shift} {n : Nat} (hr : r ∈ lowercaseShifts)
    (hn : r.covers n = true) : r.targets.covers (r.move n) = true := by
  have hlow := (targets_valid r hr).1
  exact Shift.targets_covers_move (by omega) hn

/-- The code point of a character to which a row leads. -/
theorem toNat_ofNat_move {r : Shift} {n : Nat} (hr : r ∈ lowercaseShifts)
    (hn : r.covers n = true) : (Char.ofNat (r.move n)).toNat = r.move n := by
  obtain ⟨hlow, hrange⟩ := targets_valid r hr
  obtain ⟨⟨hfirst, hlast⟩, _⟩ := Span.covers_iff.1 (targets_covers_move hr hn)
  have hvalid : (r.move n).isValidChar := by
    rcases hrange with h | h
    · exact .inl (by omega)
    · exact .inr (by omega)
  exact toNat_ofNat hvalid

/-! ## Forms -/

/-- A character that no row moves is its own form. -/
theorem lower_eq_self {c : Char} (hne : c ≠ 'İ')
    (h : ∀ r ∈ lowercaseShifts, r.covers c.toNat = false) : lower c = [c] := by
  have hnone : lowercaseShifts.find? (·.covers c.toNat) = none := by
    rw [List.find?_eq_none]
    intro r hr
    simp [h r hr]
  rw [lower, if_neg hne, shifted, hnone]

/-- A form is one of the two of `İ`, or a row leads to it, or it is the character itself. -/
theorem mem_lower_cases {c d : Char} (h : d ∈ lower c) :
    (d = 'i' ∨ d = '\u0307') ∨
    (∃ r ∈ lowercaseShifts, r.covers c.toNat = true ∧ d.toNat = r.move c.toNat) ∨
    d = c ∧ c ≠ 'İ' ∧ ∀ r ∈ lowercaseShifts, r.covers c.toNat = false := by
  unfold lower at h
  split at h
  · exact .inl (by simpa using h)
  · rename_i hne
    rw [List.mem_singleton, shifted] at h
    split at h
    · rename_i r hrow
      have hr := List.mem_of_find?_eq_some hrow
      have hcovers : r.covers c.toNat = true :=
        List.find?_some (p := fun s : Shift => s.covers c.toNat) hrow
      exact .inr (.inl ⟨r, hr, hcovers, h ▸ toNat_ofNat_move hr hcovers⟩)
    · rename_i hnone
      rw [List.find?_eq_none] at hnone
      exact .inr (.inr ⟨h, hne, fun r hr => Bool.eq_false_iff.2 (hnone r hr)⟩)

/-- A form is the character itself, or not below the letter `a`. -/
theorem eq_or_le_of_mem_lower {c d : Char} (h : d ∈ lower c) : d = c ∨ 97 ≤ d.toNat := by
  rcases mem_lower_cases h with (rfl | rfl) | ⟨r, hr, hcovers, hd⟩ | ⟨rfl, -⟩
  · exact .inr (by decide)
  · exact .inr (by decide)
  · have hlow := (targets_valid r hr).1
    have htarget := Span.covers_iff.1 (targets_covers_move hr hcovers)
    exact .inr (by omega)
  · exact .inl rfl

/-- A mark below the small letters is the form of itself alone. -/
theorem eq_of_mem_lower {c d : Char} (hd : d.toNat < 97) (h : d ∈ lower c) : d = c := by
  rcases eq_or_le_of_mem_lower h with heq | hle
  · exact heq
  · omega

/-- A form is its own form. -/
theorem lower_of_mem_lower {c d : Char} (h : d ∈ lower c) : lower d = [d] := by
  rcases mem_lower_cases h with (rfl | rfl) | ⟨r, hr, hcovers, hd⟩ | ⟨rfl, hne, hnone⟩
  · decide +kernel
  · decide +kernel
  · have htarget := targets_covers_move hr hcovers
    rw [← hd] at htarget
    refine lower_eq_self ?_ fun s hs => ?_
    · rintro rfl
      exact absurd (Span.covers_of_apart (targets_apart_dotted r hr) htarget) (by decide)
    · have hapart := List.all_eq_true.1 (List.all_eq_true.1 targets_apart r hr) s hs
      exact Span.covers_of_apart hapart htarget
  · exact lower_eq_self hne hnone

/-! ## ASCII -/

/-- Among the ASCII characters, those with the property `Uppercase` are the capitals. -/
theorem isUpper_ascii {c : Char} (hc : c.toNat < 128) (h : isUpper c = true) :
    65 ≤ c.toNat ∧ c.toNat ≤ 90 := by
  have hspans : ∀ s ∈ uppercaseSpans, s = ⟨65, 90, 1⟩ ∨ 128 ≤ s.first := by
    decide +kernel
  obtain ⟨s, hs, hcovers⟩ := List.any_eq_true.1 h
  rcases hspans s hs with rfl | hfirst
  · exact (Span.covers_iff.1 hcovers).1
  · have hbounds := (Span.covers_iff.1 hcovers).1
    omega

/-- No form of an ASCII character is a capital. -/
theorem isUpper_of_mem_lower_ascii {c d : Char} (hc : c.toNat < 128) (h : d ∈ lower c) :
    isUpper d = false := by
  have hrows : ∀ r ∈ lowercaseShifts, r = ⟨⟨65, 90, 1⟩, 32⟩ ∨ 128 ≤ r.first := by
    decide +kernel
  rcases mem_lower_cases h with (rfl | rfl) | ⟨r, hr, hcovers, hd⟩ | ⟨rfl, -, hnone⟩
  · decide +kernel
  · decide +kernel
  · have hbounds := (Span.covers_iff.1 hcovers).1
    rcases hrows r hr with rfl | hfirst
    · have hcapital : 65 ≤ c.toNat ∧ c.toNat ≤ 90 := hbounds
      have hsmall : d.toNat = c.toNat + 32 := hd
      rw [Bool.eq_false_iff]
      intro hupper
      have hform := isUpper_ascii (by omega) hupper
      omega
    · omega
  · rw [Bool.eq_false_iff]
    intro hupper
    have hcapital := isUpper_ascii hc hupper
    have hrow := hnone ⟨⟨65, 90, 1⟩, 32⟩ (by decide +kernel)
    exact absurd (Span.covers_iff.2 ⟨hcapital, Nat.mod_one _⟩) (Bool.eq_false_iff.1 hrow)

end StyleObjects.Unicode
