/-!
# Searching and replacing

Occurrences of one text in another.  Replacement goes from left to right, and occurrences that it
replaces do not overlap.

Main results:

- `isInfix_iff`: a text occurs in another exactly when it can be cut out of it.
- `eq_append_of_cut?`: the parts around an occurrence and the occurrence make up the text.
- `append_cons_eq_append`: a character that does not occur in the first part stands in the second.
- `replace_middle`: a text between others that share no character with its start is replaced there.
-/

namespace StyleObjects.Text

/-- Whether `needle` occurs in a text. -/
def isInfix (needle : List Char) : List Char → Bool
  | [] => needle.isEmpty
  | c :: s => needle.isPrefixOf (c :: s) || isInfix needle s

/-- A text occurs in another exactly when it can be cut out of it. -/
theorem isInfix_iff {needle s : List Char} : isInfix needle s = true ↔ needle <:+: s := by
  induction s with
  | nil => cases needle <;> simp [isInfix]
  | cons c s ih =>
    simp only [isInfix, Bool.or_eq_true, List.isPrefixOf_iff_prefix, ih]
    exact List.infix_cons_iff.symm

/-- The text after `start`, if a text starts with it. -/
def dropStart? : List Char → List Char → Option (List Char)
  | [], s => some s
  | _ :: _, [] => none
  | c :: start, d :: s => if c = d then dropStart? start s else none

/-- A start that can be dropped is the start of the text. -/
theorem dropStart?_eq_some_iff {start s rest : List Char} :
    dropStart? start s = some rest ↔ s = start ++ rest := by
  induction start generalizing s with
  | nil => simp [dropStart?, eq_comm]
  | cons c start ih =>
    cases s with
    | nil => simp [dropStart?]
    | cons d s =>
      by_cases h : c = d
      · simp [dropStart?, h, ih]
      · simp [dropStart?, h, Ne.symm h]

/-- The text before and after the first occurrence of `mark`. -/
def cut? (mark : List Char) : List Char → Option (List Char × List Char)
  | [] => if mark.isEmpty then some ([], []) else none
  | c :: s =>
    match dropStart? mark (c :: s) with
    | some rest => some ([], rest)
    | none => (cut? mark s).map fun parts => (c :: parts.1, parts.2)

/-- The parts around an occurrence and the occurrence make up the text. -/
theorem eq_append_of_cut? {mark s before after : List Char}
    (h : cut? mark s = some (before, after)) : s = before ++ mark ++ after := by
  induction s generalizing before after with
  | nil =>
    cases mark <;> simp_all [cut?]
  | cons c s ih =>
    rw [cut?] at h
    split at h
    · rename_i rest hit
      obtain ⟨rfl, rfl⟩ := Prod.mk.inj (Option.some.inj h)
      simpa using dropStart?_eq_some_iff.1 hit
    · obtain ⟨parts, hp, heq⟩ := Option.map_eq_some_iff.1 h
      obtain ⟨rfl, rfl⟩ := Prod.mk.inj heq
      simpa using ih hp

/-! ## Places of a character -/

/-- A character that does not occur in the first part of a text stands in the second. -/
theorem append_cons_eq_append {x v y z : List Char} {c : Char} (h : x ++ c :: v = y ++ z)
    (hc : c ∉ y) : ∃ w, x = y ++ w ∧ z = w ++ c :: v := by
  rcases List.append_eq_append_iff.1 h with ⟨w, rfl, hz⟩ | ⟨w, rfl, hz⟩
  · cases w with
    | nil => exact ⟨[], by simp, hz.symm⟩
    | cons d w =>
      obtain ⟨rfl, _⟩ := List.cons.inj hz
      simp at hc
  · exact ⟨w, rfl, hz⟩

/-- A character that does not occur in the second part of a text stands in the first. -/
theorem append_eq_append_cons {x v y z : List Char} {c : Char} (h : y ++ z = x ++ c :: v)
    (hc : c ∉ z) : ∃ w, y = x ++ c :: w ∧ v = w ++ z := by
  rcases List.append_eq_append_iff.1 h with ⟨w, rfl, rfl⟩ | ⟨w, rfl, hv⟩
  · simp at hc
  · cases w with
    | nil =>
      rw [List.nil_append] at hv
      simp [← hv] at hc
    | cons d w =>
      obtain ⟨rfl, rfl⟩ := List.cons.inj hv
      exact ⟨w, rfl, rfl⟩

/-- A text occurs on one side of a character that it does not hold. -/
theorem append_eq_append_cons_cases {before needle after a b : List Char} {c : Char}
    (h : before ++ needle ++ after = a ++ c :: b) (hc : c ∉ needle) (hne : needle ≠ []) :
    (∃ rest, a = before ++ needle ++ rest ∧ after = rest ++ c :: b) ∨
      ∃ rest, before = a ++ c :: rest ∧ b = rest ++ needle ++ after := by
  rw [List.append_assoc] at h
  rcases List.append_eq_append_iff.1 h with ⟨w, rfl, hw⟩ | ⟨w, rfl, hw⟩
  · obtain ⟨rest, rfl, rfl⟩ := append_cons_eq_append hw.symm hc
    exact .inl ⟨rest, by simp, rfl⟩
  · cases w with
    | nil =>
      cases needle with
      | nil => exact absurd rfl hne
      | cons d needle =>
        obtain ⟨rfl, _⟩ := List.cons.inj hw
        simp at hc
    | cons d w =>
      obtain ⟨rfl, rfl⟩ := List.cons.inj hw
      exact .inr ⟨w, rfl, by simp⟩

/-- A text without some character occurs on one side of it. -/
theorem infix_append_cons {needle a b : List Char} {c : Char} (hc : c ∉ needle) (hne : needle ≠ [])
    (h : needle <:+: a ++ c :: b) : needle <:+: a ∨ needle <:+: b := by
  obtain ⟨before, after, hsplit⟩ := h
  rcases append_eq_append_cons_cases hsplit hc hne with ⟨rest, rfl, _⟩ | ⟨rest, _, rfl⟩
  · exact .inl ⟨before, rest, rfl⟩
  · exact .inr ⟨rest, after, rfl⟩

/-- A text that does not end with a character does not reach up to it. -/
theorem infix_of_infix_concat {needle a : List Char} {c : Char} (hlast : needle.getLast? ≠ some c)
    (h : needle <:+: a ++ [c]) : needle <:+: a := by
  obtain ⟨before, after, hsplit⟩ := h
  rcases List.eq_nil_or_concat after with rfl | ⟨rest, d, rfl⟩
  · cases hneedle : needle.getLast? with
    | none =>
      rw [List.getLast?_eq_none_iff.1 hneedle]
      exact List.nil_infix
    | some d =>
      have hends := congrArg List.getLast? hsplit
      rw [List.append_nil, List.getLast?_append, hneedle, List.getLast?_concat] at hends
      rw [hneedle] at hlast
      exact absurd hends hlast
  · rw [List.concat_eq_append, ← List.append_assoc] at hsplit
    obtain ⟨rfl, _⟩ := List.append_inj' hsplit rfl
    exact ⟨before, rest, rfl⟩

/-- Texts up to the first character of a kind are told apart. -/
theorem append_cons_inj {p : Char → Bool} {x v y z : List Char} {c d : Char}
    (h : x ++ c :: v = y ++ d :: z) (hx : ∀ a ∈ x, p a = false) (hy : ∀ a ∈ y, p a = false)
    (hc : p c = true) (hd : p d = true) : x = y ∧ c = d ∧ v = z := by
  have hmem : c ∉ y := by
    intro hmem
    rw [hy c hmem] at hc
    cases hc
  obtain ⟨w, rfl, hw⟩ := append_cons_eq_append h hmem
  cases w with
  | nil =>
    obtain ⟨rfl, rfl⟩ := List.cons.inj hw
    exact ⟨List.append_nil y, rfl, rfl⟩
  | cons a w =>
    obtain ⟨rfl, _⟩ := List.cons.inj hw
    rw [hx d (by simp)] at hd
    cases hd

/-! ## Replacing -/

/-- Replaces every `old` by `new`. -/
def replaceChar (old : Char) (new s : List Char) : List Char :=
  s.flatMap fun c => if c = old then new else [c]

/-- Replaces occurrences of `needle`, passing over `skip` characters first. -/
def replaceFrom (needle new : List Char) (skip : Nat) : List Char → List Char
  | [] => []
  | c :: s =>
    match skip with
    | skip + 1 => replaceFrom needle new skip s
    | 0 =>
      if needle.isPrefixOf (c :: s) then new ++ replaceFrom needle new (needle.length - 1) s
      else c :: replaceFrom needle new 0 s

/-- Replaces the occurrences of a text that is not empty, from left to right. -/
def replace (needle new s : List Char) : List Char :=
  replaceFrom needle new 0 s

/-- Nothing is replaced in a text without the first character of what is looked for. -/
theorem replaceFrom_of_not_mem {x : Char} {mark new s : List Char} (h : x ∉ s) :
    replaceFrom (x :: mark) new 0 s = s := by
  induction s with
  | nil => rfl
  | cons c s ih =>
    simp only [List.mem_cons, not_or] at h
    have hmiss : (x :: mark).isPrefixOf (c :: s) = false := by
      simp [List.isPrefixOf_cons_cons, h.1]
    rw [replaceFrom, hmiss, if_neg Bool.false_ne_true, ih h.2]

/-- Characters that are passed over are dropped. -/
theorem replaceFrom_skip (needle new passed s : List Char) :
    replaceFrom needle new passed.length (passed ++ s) = replaceFrom needle new 0 s := by
  induction passed with
  | nil => rfl
  | cons c passed ih => exact ih

/-- A text between others that share no character with its start is replaced there. -/
theorem replace_middle {x : Char} {mark new before after : List Char} (hbefore : x ∉ before)
    (hafter : x ∉ after) :
    replace (x :: mark) new (before ++ x :: mark ++ after) = before ++ new ++ after := by
  induction before with
  | nil =>
    have hhit : (x :: mark).isPrefixOf (x :: (mark ++ after)) = true := by
      simp [List.isPrefixOf_iff_prefix]
    rw [replace, List.nil_append, List.cons_append, replaceFrom, hhit, if_pos rfl,
      List.length_cons, Nat.add_sub_cancel, replaceFrom_skip, replaceFrom_of_not_mem hafter]
    rfl
  | cons c before ih =>
    simp only [List.mem_cons, not_or] at hbefore
    have hmiss : (x :: mark).isPrefixOf (c :: (before ++ x :: mark ++ after)) = false := by
      simp [List.isPrefixOf_cons_cons, hbefore.1]
    have hrest := ih hbefore.2
    rw [replace] at hrest
    rw [replace, List.cons_append, List.cons_append, replaceFrom, hmiss, if_neg Bool.false_ne_true,
      hrest]
    rfl

end StyleObjects.Text
