import Mathlib.Data.List.Chain
import StyleObjects.Kebab
import StyleObjects.Proofs.LowercaseForms

/-!
# Words and dashes

Kebab case keeps the letters of a name: but for dashes, what is written is the name in lowercase,
without the characters that separate words.  In a name without dashes, every dash that is written
stands for one place where a word ends.

The walk decides on a dash by looking back at the name and at what has been written last.  On names
without dashes these two go together (`Follows`): behind a separator a dash has been written last,
if anything, and behind any other character its lowercase form.  Every character keeps this, so a
dash never meets another one.

Main results:

- `Kebab.undashed_writeFrom`: no letters are lost or added.
- `Kebab.spaced_writeFrom`: no dash stands at the start or behind another one.
- `Kebab.Neighbours.isBetween_iff`: what stands between the forms of two neighbours.
- `kebabCase_dashes`: all of this for whole names.
-/

namespace StyleObjects

namespace Kebab

open Unicode

/-! ## Kept characters -/

/-- Whether a character is more than a mark between words. -/
def isKept (c : Char) : Bool :=
  c ∉ [' ', '_', '-']

/-- The lowercase forms of the kept characters. -/
def letters (s : List Char) : List Char :=
  (s.filter isKept).flatMap lower

/-- A text without its dashes. -/
def undashed (s : List Char) : List Char :=
  s.filter (· ≠ '-')

/-- Two kept characters of a text with no other kept one between them. -/
structure Neighbours (s : List Char) where
  before : List Char
  first : Char
  gap : List Char
  second : Char
  after : List Char
  split : before ++ first :: (gap ++ second :: after) = s
  first_kept : isKept first = true
  gap_skipped : ∀ c ∈ gap, isKept c = false
  second_kept : isKept second = true

namespace Neighbours

variable {s : List Char}

/-- Whether a word ends between two neighbours: at a space or an underscore, or in front of a
capital that follows a small letter or a digit, or follows a capital and is followed by a small
letter. -/
def HasWordEnd (n : Neighbours s) : Prop :=
  (' ' ∈ n.gap ∨ '_' ∈ n.gap) ∨
    n.gap = [] ∧ isUpper n.second = true ∧
      (isLower n.first = true ∨ n.first.isDigit = true ∨
        isUpper n.first = true ∧ n.after.head?.any isLower = true)

instance (n : Neighbours s) : Decidable n.HasWordEnd :=
  inferInstanceAs (Decidable ((' ' ∈ n.gap ∨ '_' ∈ n.gap) ∨
    n.gap = [] ∧ isUpper n.second = true ∧
      (isLower n.first = true ∨ n.first.isDigit = true ∨
        isUpper n.first = true ∧ n.after.head?.any isLower = true)))

/-- Whether a text stands between the forms of two neighbours in what is written.  That these are
their forms, and not others that look the same, is known by the letters on both sides. -/
def IsBetween (n : Neighbours s) (written text : List Char) : Prop :=
  ∃ x y, written = x ++ lower n.first ++ text ++ lower n.second ++ y ∧
    undashed x = letters n.before ∧ undashed y = letters n.after

end Neighbours

variable {c : Char} {s t : List Char} {previous written : Option Char}

/-- Spaces and underscores separate words. -/
theorem isSeparator_iff : isSeparator c = true ↔ c = ' ' ∨ c = '_' := by
  simp [isSeparator]

/-- Kept characters are neither separators nor dashes. -/
theorem isKept_iff : isKept c = true ↔ isSeparator c = false ∧ c ≠ '-' := by
  simp [isKept, isSeparator, and_assoc]

/-- The other characters are spaces, underscores and dashes. -/
theorem isKept_eq_false_iff : isKept c = false ↔ c = ' ' ∨ c = '_' ∨ c = '-' := by
  rw [isKept, decide_eq_false_iff_not, Decidable.not_not]
  simp

@[simp] theorem undashed_append : undashed (s ++ t) = undashed s ++ undashed t :=
  List.filter_append s t

@[simp] theorem letters_append : letters (s ++ t) = letters s ++ letters t := by
  simp [letters]

/-- A kept character keeps its lowercase form. -/
theorem letters_of_kept (h : isKept c = true) : letters [c] = lower c := by
  simp [letters, h]

/-- Nothing is kept of a separator or a dash. -/
theorem letters_of_skipped (h : isKept c = false) : letters [c] = [] := by
  simp [letters, h]

/-- Only the dash has a dash as form. -/
theorem dash_notMem_lower (h : c ≠ '-') : '-' ∉ lower c := fun hmem =>
  h (eq_of_mem_lower (by decide) hmem).symm

/-- The lowercase form of a character has no dashes. -/
theorem undashed_lower (h : c ≠ '-') : undashed (lower c) = lower c := by
  rw [undashed, List.filter_eq_self]
  rintro d hd
  simpa using fun hdash : d = '-' => dash_notMem_lower h (hdash ▸ hd)

/-- A lowercase form has a last character. -/
theorem exists_getLast?_lower (c : Char) : ∃ d ∈ lower c, (lower c).getLast? = some d :=
  ⟨_, List.getLast_mem (lower_ne_nil c), List.getLast?_eq_some_getLast (lower_ne_nil c)⟩

theorem getLast?_cons_or (c : Char) (s : List Char) (other : Option Char) :
    (c :: s).getLast?.or other = s.getLast?.or (some c) := by
  rw [List.getLast?_cons, Option.some_or, Option.or_some]

/-! ## What one character writes -/

/-- The dash in front of the form of a character. -/
def leadingDash (previous written : Option Char) (c : Char) (next : Option Char) : List Char :=
  if isUpper c && previous.any (startsWord · next) && written != some '-' then ['-'] else []

/-- A separator gives a dash, unless one is written last or nothing is. -/
theorem piece_separator (h : isSeparator c = true) (next : Option Char) :
    piece previous written c next = if written = none ∨ written = some '-' then [] else ['-'] := by
  rw [piece, if_pos h]

/-- Any other character gives its lowercase form, perhaps with a dash in front. -/
theorem piece_letter (h : isSeparator c = false) (next : Option Char) :
    piece previous written c next = leadingDash previous written c next ++ lower c := by
  rw [piece, if_neg (Bool.eq_false_iff.1 h), leadingDash]
  split <;> rfl

@[simp] theorem undashed_leadingDash (next : Option Char) :
    undashed (leadingDash previous written c next) = [] := by
  unfold leadingDash
  split <;> rfl

/-- Behind the form of a letter, a dash stands in front of a capital that starts a word. -/
theorem leadingDash_eq {a b : Char} {next : Option Char} (ha : a ≠ '-') :
    leadingDash (some a) (lower a).getLast? b next =
      if isUpper b = true ∧ startsWord a next = true then ['-'] else [] := by
  have hlast : (lower a).getLast? ≠ some '-' := fun h =>
    dash_notMem_lower ha (List.mem_of_getLast? h)
  simp [leadingDash, hlast]

/-- Without dashes, a piece is what is kept of its character. -/
theorem undashed_piece (next : Option Char) :
    undashed (piece previous written c next) = letters [c] := by
  cases hsep : isSeparator c with
  | true =>
    have hskipped : isKept c = false :=
      isKept_eq_false_iff.2 ((isSeparator_iff.1 hsep).imp_right .inl)
    rw [piece_separator hsep, letters_of_skipped hskipped]
    split <;> rfl
  | false =>
    rw [piece_letter hsep, undashed_append, undashed_leadingDash, List.nil_append]
    by_cases hdash : c = '-'
    · subst hdash
      decide +kernel
    · rw [letters_of_kept (isKept_iff.2 ⟨hsep, hdash⟩), undashed_lower hdash]

/-- A separator starts no word behind it. -/
theorem startsWord_separator (h : isSeparator c = true) (next : Option Char) :
    startsWord c next = false := by
  have hmark : isLower c = false ∧ ('0' ≤ c && c ≤ '9') = false ∧ isUpper c = false := by
    rcases isSeparator_iff.1 h with rfl | rfl <;> decide +kernel
  obtain ⟨hlower, hdigit, hupper⟩ := hmark
  rw [startsWord, hlower, hdigit, hupper]
  rfl

/-! ## Letters -/

/-- What is written has the letters of the name, in their order. -/
theorem undashed_writeFrom (previous written : Option Char) (s : List Char) :
    undashed (writeFrom previous written s) = letters s := by
  induction s generalizing previous written with
  | nil => rfl
  | cons c s ih =>
    rw [writeFrom, undashed_append, undashed_piece, ih, ← letters_append, List.singleton_append]

/-- Dashes and forms of kept characters are written. -/
theorem mem_writeFrom {d : Char} (h : d ∈ writeFrom previous written s) :
    d = '-' ∨ ∃ c ∈ s, isKept c = true ∧ d ∈ lower c := by
  by_cases hdash : d = '-'
  · exact .inl hdash
  · have hletter : d ∈ letters s := by
      rw [← undashed_writeFrom previous written]
      exact List.mem_filter.2 ⟨h, by simpa using hdash⟩
    obtain ⟨c, hc, hd⟩ := List.mem_flatMap.1 hletter
    obtain ⟨hc, hkept⟩ := List.mem_filter.1 hc
    exact .inr ⟨c, hc, hkept, hd⟩

/-! ## Single dashes -/

/-- What has been written last, behind a character of a name without dashes. -/
inductive Follows : (previous written : Option Char) → Prop
  | start : Follows none none
  | leading {c : Char} (h : isSeparator c = true) : Follows (some c) none
  | gap {c : Char} (h : isSeparator c = true) : Follows (some c) (some '-')
  | letter {c d : Char} (h : isSeparator c = false) (hd : d ≠ '-') : Follows (some c) (some d)

/-- One step keeps what was written in line with what was read. -/
theorem Follows.step (h : Follows previous written) (hc : c ≠ '-') (next : Option Char) :
    Follows (some c) ((piece previous written c next).getLast?.or written) := by
  cases hsep : isSeparator c with
  | true =>
    rw [piece_separator hsep]
    cases h with
    | start => exact .leading hsep
    | leading => exact .leading hsep
    | gap => exact .gap hsep
    | letter _ hd =>
      rw [if_neg (by simpa using hd)]
      exact .gap hsep
  | false =>
    obtain ⟨d, hmem, hd⟩ := exists_getLast?_lower c
    rw [piece_letter hsep, List.getLast?_append, hd]
    exact .letter hsep fun hdash => dash_notMem_lower hc (hdash ▸ hmem)

/-- So does a run. -/
theorem Follows.run (h : Follows previous written) (hs : '-' ∉ s) :
    Follows (s.getLast?.or previous) ((writeFrom previous written s).getLast?.or written) := by
  induction s generalizing previous written with
  | nil => exact h
  | cons c s ih =>
    rw [List.mem_cons, not_or] at hs
    have hstep := ih (h.step (Ne.symm hs.1) s.head?) hs.2
    rwa [writeFrom, List.getLast?_append, Option.or_assoc, getLast?_cons_or]

/-- A text in which no dash stands behind another one. -/
def Spaced (s : List Char) : Prop :=
  s.IsChain fun a b => a = '-' → b ≠ '-'

/-- A text with a dash at its start alone has no two in a row. -/
theorem spaced_cons_of_notMem (c : Char) (h : '-' ∉ s) : Spaced (c :: s) := by
  induction s generalizing c with
  | nil => exact .singleton c
  | cons d s ih =>
    rw [List.mem_cons, not_or] at h
    exact List.isChain_cons_cons.2 ⟨fun _ => Ne.symm h.1, ih d h.2⟩

/-- A text may be continued as one that starts at its last character. -/
theorem Spaced.append (h : Spaced (c :: s)) (ht : Spaced (s.getLast?.getD c :: t)) :
    Spaced (c :: (s ++ t)) := by
  rw [Spaced, List.isChain_cons] at ht
  rw [Spaced, ← List.cons_append, List.isChain_append]
  refine ⟨h, ht.2, fun a ha b hb => ht.1 b hb ∘ fun hdash => ?_⟩
  rw [List.getLast?_cons, Option.mem_some_iff] at ha
  exact ha.trans hdash

/-- Where nothing has been written, a dash would be as wrong as behind another dash. -/
theorem spaced_piece (h : Follows previous written) (hc : c ≠ '-') (next : Option Char) :
    Spaced (written.getD '-' :: piece previous written c next) := by
  cases hsep : isSeparator c with
  | true =>
    rw [piece_separator hsep]
    split
    · exact .singleton _
    · rename_i hwritten
      cases h with
      | start => simp at hwritten
      | leading => simp at hwritten
      | gap => simp at hwritten
      | letter _ hd => exact List.isChain_pair.2 fun hdash => absurd hdash hd
  | false =>
    rw [piece_letter hsep, leadingDash]
    split
    · rename_i hdash
      simp only [Bool.and_eq_true, bne_iff_ne, ne_eq] at hdash
      obtain ⟨⟨_, hstarts⟩, _⟩ := hdash
      refine List.isChain_cons_cons.2 ⟨?_, spaced_cons_of_notMem '-' (dash_notMem_lower hc)⟩
      -- No word starts behind a separator, so a letter has been written last.
      cases h with
      | start => simp at hstarts
      | leading hprevious => simp [startsWord_separator hprevious] at hstarts
      | gap hprevious => simp [startsWord_separator hprevious] at hstarts
      | letter _ hd => exact fun hsame => absurd hsame hd
    · exact spaced_cons_of_notMem _ (dash_notMem_lower hc)

/-- Of a name without dashes, no dash is written at the start or behind another one. -/
theorem spaced_writeFrom (h : Follows previous written) (hs : '-' ∉ s) :
    Spaced (written.getD '-' :: writeFrom previous written s) := by
  induction s generalizing previous written with
  | nil => exact .singleton _
  | cons c s ih =>
    rw [List.mem_cons, not_or] at hs
    have hpiece := spaced_piece h (Ne.symm hs.1) s.head?
    have hrest := ih (h.step (Ne.symm hs.1) s.head?) hs.2
    rw [Option.getD_or] at hrest
    exact hpiece.append hrest

/-! ## Between neighbours -/

/-- A name is written in two parts, the second of which looks back at the first. -/
theorem exists_writeFrom_append (previous written : Option Char) (s rest : List Char) :
    ∃ text last, writeFrom previous written (s ++ rest) =
      text ++ writeFrom (s.getLast?.or previous) last rest ∧ undashed text = letters s := by
  induction s generalizing previous written with
  | nil => exact ⟨[], written, rfl, rfl⟩
  | cons c s ih =>
    obtain ⟨text, last, hwrite, hletters⟩ :=
      ih (some c) ((piece previous written c (s ++ rest).head?).getLast?.or written)
    refine ⟨piece previous written c (s ++ rest).head? ++ text, last, ?_, ?_⟩
    · rw [List.cons_append, writeFrom, hwrite, List.append_assoc, getLast?_cons_or]
    · rw [undashed_append, undashed_piece, hletters, ← letters_append, List.singleton_append]

/-- A letter is written as its form, and the rest behind it. -/
theorem writeFrom_letter (h : isSeparator c = false) (s : List Char) :
    writeFrom previous written (c :: s) = leadingDash previous written c s.head? ++
      (lower c ++ writeFrom (some c) (lower c).getLast? s) := by
  obtain ⟨d, _, hd⟩ := exists_getLast?_lower c
  rw [writeFrom, piece_letter h, List.getLast?_append, hd, Option.some_or, Option.some_or,
    List.append_assoc]

/-- Behind a dash, separators are not written. -/
theorem writeFrom_separators (h : ∀ c ∈ s, isSeparator c = true) (rest : List Char) :
    writeFrom previous (some '-') (s ++ rest) =
      writeFrom (s.getLast?.or previous) (some '-') rest := by
  induction s generalizing previous with
  | nil => rfl
  | cons c s ih =>
    rw [List.forall_mem_cons] at h
    rw [List.cons_append, writeFrom, piece_separator h.1, if_pos (.inr rfl), getLast?_cons_or]
    exact ih h.2

/-- Separators behind a letter are written as one dash, and no other stands in front of the letter
behind them. -/
theorem writeFrom_gap {d : Char} (hd : d ≠ '-') (hs : s ≠ []) (h : ∀ c ∈ s, isSeparator c = true)
    (hc : isSeparator c = false) (rest : List Char) :
    writeFrom previous (some d) (s ++ c :: rest) =
      '-' :: (lower c ++ writeFrom (some c) (lower c).getLast? rest) := by
  obtain ⟨separator, more, rfl⟩ := List.exists_cons_of_ne_nil hs
  rw [List.forall_mem_cons] at h
  have hnone (before : Option Char) : leadingDash before (some '-') c rest.head? = [] := by
    simp [leadingDash]
  rw [List.cons_append, writeFrom, piece_separator h.1, if_neg (by simpa using hd)]
  change '-' :: writeFrom (some separator) (some '-') (more ++ c :: rest) = _
  rw [writeFrom_separators h.2, writeFrom_letter hc, hnone, List.nil_append]

/-- A capital starts a word behind a small letter or a digit, or between a capital and a small
letter. -/
theorem startsWord_iff {next : Option Char} : startsWord c next = true ↔
    isLower c = true ∨ c.isDigit = true ∨ isUpper c = true ∧ next.any isLower = true := by
  have hdigit : ('0' ≤ c && c ≤ '9') = c.isDigit := rfl
  rw [startsWord, hdigit, Bool.or_eq_true, Bool.or_eq_true, Bool.and_eq_true, or_assoc]

/-- Texts with the same letters in front of a letter are told apart there. -/
theorem append_cons_inj_of_undashed {x y v z : List Char} {a b : Char}
    (h : x ++ a :: v = y ++ b :: z) (ha : a ≠ '-') (hb : b ≠ '-') (hxy : undashed x = undashed y) :
    x = y ∧ a :: v = b :: z := by
  induction x generalizing y with
  | nil =>
    cases y with
    | nil => exact ⟨rfl, h⟩
    | cons d y =>
      obtain ⟨rfl, _⟩ := List.cons.inj h
      simp [undashed, ha] at hxy
  | cons e x ih =>
    cases y with
    | nil =>
      obtain ⟨rfl, _⟩ := List.cons.inj h
      simp [undashed, hb] at hxy
    | cons d y =>
      obtain ⟨rfl, hrest⟩ := List.cons.inj h
      have hsplit (s : List Char) : undashed (e :: s) = undashed [e] ++ undashed s :=
        undashed_append (s := [e])
      have htail : undashed x = undashed y := by
        rw [hsplit x, hsplit y] at hxy
        exact List.append_cancel_left hxy
      obtain ⟨rfl, hsame⟩ := ih hrest htail
      exact ⟨rfl, hsame⟩

namespace Neighbours

theorem first_ne_dash (n : Neighbours s) : n.first ≠ '-' :=
  (isKept_iff.1 n.first_kept).2

theorem second_ne_dash (n : Neighbours s) : n.second ≠ '-' :=
  (isKept_iff.1 n.second_kept).2

/-- At most one text stands between the forms of two neighbours. -/
theorem IsBetween.unique {n : Neighbours s} {out text other : List Char}
    (h : n.IsBetween out text) (hother : n.IsBetween out other) : text = other := by
  obtain ⟨x, y, rfl, hx, hy⟩ := h
  obtain ⟨x', y', hout, hx', hy'⟩ := hother
  have hletters := congrArg undashed hout
  simp only [undashed_append, hx, hy, hx', hy', List.append_assoc] at hletters hout
  have hdashes : undashed text = undashed other :=
    List.append_cancel_right (List.append_cancel_left (List.append_cancel_left hletters))
  obtain ⟨a, first, hfirst⟩ := List.exists_cons_of_ne_nil (lower_ne_nil n.first)
  obtain ⟨b, second, hsecond⟩ := List.exists_cons_of_ne_nil (lower_ne_nil n.second)
  have ha : a ≠ '-' := fun hdash =>
    dash_notMem_lower n.first_ne_dash (by simp [hfirst, hdash])
  have hb : b ≠ '-' := fun hdash =>
    dash_notMem_lower n.second_ne_dash (by simp [hsecond, hdash])
  rw [hfirst, hsecond] at hout
  -- The letters in front tell where the form of the first neighbour begins, and dashes are no part
  -- of that of the second.
  obtain ⟨-, hbehind⟩ := append_cons_inj_of_undashed hout ha ha (hx.trans hx'.symm)
  have hrest := List.append_cancel_left (List.cons.inj hbehind).2
  exact (append_cons_inj_of_undashed hrest hb hb hdashes).1

/-- In a name without dashes, only separators stand between neighbours. -/
theorem isSeparator_gap (n : Neighbours s) (hs : '-' ∉ s) : ∀ c ∈ n.gap, isSeparator c = true := by
  intro c hc
  have hmem : c ∈ s := n.split ▸ by simp [hc]
  rcases isKept_eq_false_iff.1 (n.gap_skipped c hc) with rfl | rfl | rfl
  · rfl
  · rfl
  · exact absurd hmem hs

/-- Between words that are separated a word ends. -/
theorem hasWordEnd_of_gap (n : Neighbours s) (hs : '-' ∉ s) (hgap : n.gap ≠ []) :
    n.HasWordEnd := by
  obtain ⟨c, hc⟩ := List.exists_mem_of_ne_nil _ hgap
  rcases isSeparator_iff.1 (n.isSeparator_gap hs c hc) with rfl | rfl
  · exact .inl (.inl hc)
  · exact .inl (.inr hc)

/-- Without separators a word ends exactly in front of a capital that starts one. -/
theorem hasWordEnd_iff_of_adjacent (n : Neighbours s) (hgap : n.gap = []) :
    n.HasWordEnd ↔ isUpper n.second = true ∧ startsWord n.first n.after.head? = true := by
  rw [startsWord_iff]
  simp [HasWordEnd, hgap]

/-- What is written behind the form of the first neighbour. -/
theorem writeFrom_behind (n : Neighbours s) (hs : '-' ∉ s) :
    writeFrom (some n.first) (lower n.first).getLast? (n.gap ++ n.second :: n.after) =
      (if n.HasWordEnd then ['-'] else []) ++
        (lower n.second ++ writeFrom (some n.second) (lower n.second).getLast? n.after) := by
  have hsecond := (isKept_iff.1 n.second_kept).1
  by_cases hgap : n.gap = []
  · rw [hgap, List.nil_append, writeFrom_letter hsecond, leadingDash_eq n.first_ne_dash]
    simp only [n.hasWordEnd_iff_of_adjacent hgap]
  · obtain ⟨d, hmem, hd⟩ := exists_getLast?_lower n.first
    have hdash : d ≠ '-' := fun h => dash_notMem_lower n.first_ne_dash (h ▸ hmem)
    rw [hd, writeFrom_gap hdash hgap (n.isSeparator_gap hs) hsecond,
      if_pos (n.hasWordEnd_of_gap hs hgap)]
    rfl

/-- A dash stands between the forms of two neighbours if a word ends there, and nothing else. -/
theorem isBetween_write (n : Neighbours s) (hs : '-' ∉ s) :
    n.IsBetween (write s) (if n.HasWordEnd then ['-'] else []) := by
  obtain ⟨x, last, hwrite, hx⟩ :=
    exists_writeFrom_append none none n.before (n.first :: (n.gap ++ n.second :: n.after))
  rw [n.split, writeFrom_letter (isKept_iff.1 n.first_kept).1, n.writeFrom_behind hs] at hwrite
  -- A dash in front of the first neighbour goes with what stands before it.
  refine ⟨x ++ leadingDash (n.before.getLast?.or none) last n.first
    (n.gap ++ n.second :: n.after).head?,
    writeFrom (some n.second) (lower n.second).getLast? n.after, ?_, ?_, undashed_writeFrom _ _ _⟩
  · rw [write, hwrite]
    simp only [List.append_assoc]
  · rw [undashed_append, undashed_leadingDash, List.append_nil, hx]

/-- Between the forms of two neighbours stands a dash if a word ends there, and nothing else. -/
theorem isBetween_iff (n : Neighbours s) (hs : '-' ∉ s) {text : List Char} :
    n.IsBetween (write s) text ↔ text = if n.HasWordEnd then ['-'] else [] :=
  ⟨fun h => h.unique (n.isBetween_write hs), fun h => h ▸ n.isBetween_write hs⟩

end Neighbours

end Kebab

open Kebab

/-- But for dashes, the kebab case of a name is the name in lowercase without spaces, underscores
and dashes.  If the name has no dash, then no dash stands at the start or behind another one, there
is one at the end only if the name ends with a separator, and otherwise there is one exactly where a
word ends between two neighbours. -/
theorem kebabCase_dashes (name : String) :
    undashed (kebabCase name).toList = letters name.toList ∧
    ('-' ∉ name.toList →
      (kebabCase name).toList.head? ≠ some '-' ∧
      ¬['-', '-'] <:+: (kebabCase name).toList ∧
      ((kebabCase name).toList.getLast? = some '-' →
        name.toList.getLast? = some ' ' ∨ name.toList.getLast? = some '_') ∧
      ∀ (n : Neighbours name.toList) (text : List Char),
        n.IsBetween (kebabCase name).toList text ↔ text = if n.HasWordEnd then ['-'] else []) := by
  rw [kebabCase, String.toList_ofList]
  refine ⟨undashed_writeFrom _ _ _, fun hname => ?_⟩
  have hspaced : Spaced ('-' :: write name.toList) := spaced_writeFrom .start hname
  rw [Spaced, List.isChain_cons] at hspaced
  refine ⟨fun hhead => hspaced.1 '-' hhead rfl rfl, fun hinfix => ?_, fun hlast => ?_,
    fun n text => n.isBetween_iff hname⟩
  · obtain ⟨x, y, hsplit⟩ := hinfix
    have hchain := hspaced.2
    rw [← hsplit] at hchain
    exact List.isChain_pair.1 hchain.left_of_append.right_of_append rfl rfl
  · have hfollows : Follows (name.toList.getLast?.or none) ((write name.toList).getLast?.or none) :=
      Follows.start.run hname
    rw [Option.or_none, Option.or_none, hlast] at hfollows
    generalize name.toList.getLast? = previous at hfollows
    cases hfollows with
    | gap h => simpa using isSeparator_iff.1 h
    | letter _ hd => exact absurd rfl hd

/-- A name with separators at its start and end and in between, a run of capitals, and a digit. -/
def sampleName : String :=
  "__fooHTMLElem2Col_ Row "

/-- The last capitals of the run: a word ends between them. -/
def wordEnd : Neighbours sampleName.toList :=
  ⟨"__fooHTM".toList, 'L', [], 'E', "lem2Col_ Row ".toList, by decide, by decide, by simp,
    by decide⟩

/-- The first capitals of the run. -/
def sameWord : Neighbours sampleName.toList :=
  ⟨"__foo".toList, 'H', [], 'T', "MLElem2Col_ Row ".toList, by decide, by decide, by simp,
    by decide⟩

theorem kebabCase_dashes_sample :
    '-' ∉ sampleName.toList ∧
    kebabCase sampleName = "foo-html-elem2-col-row-" ∧
    undashed (kebabCase sampleName).toList = letters sampleName.toList ∧
    ¬['-', '-'] <:+: (kebabCase sampleName).toList ∧
    wordEnd.IsBetween (kebabCase sampleName).toList ['-'] ∧
    sameWord.IsBetween (kebabCase sampleName).toList [] := by
  have hdash : '-' ∉ sampleName.toList := by decide
  obtain ⟨hletters, hdashes⟩ := kebabCase_dashes sampleName
  obtain ⟨_, hinfix, _, hbetween⟩ := hdashes hdash
  have hends : wordEnd.HasWordEnd := by decide +kernel
  have hsame : ¬sameWord.HasWordEnd := by decide +kernel
  refine ⟨hdash, by decide +kernel, hletters, hinfix, ?_, ?_⟩
  · exact (hbetween wordEnd ['-']).2 (if_pos hends).symm
  · exact (hbetween sameWord []).2 (if_neg hsame).symm

end StyleObjects
