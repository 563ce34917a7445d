import StyleObjects.Proofs.SourceComments

/-!
# Splitting a source at its doc comments

A source whose doc comments are all closed is a row of doc comments with fillers around them, where a
filler is plain text with plain comments `/**/` in between.  If a doc comment is never closed, then
the source is such a row up to the mark of that comment.  A source is a row in one way only: the
first mark that opens a doc comment, and the first end behind it, leave no choice.

Main results:

- `Split.text_inj`: a source splits in one way.
- `hasComments_iff`: all doc comments are closed exactly if the source splits.
- `neverClosed_iff`: a doc comment is never closed exactly if what stands in front of it splits.
-/

namespace StyleObjects

/-- If the first occurrence of a text is cut out of two equal texts, then the parts are equal. -/
theorem Text.first_infix_inj {needle t u x y : List Char}
    (ht : ¬ needle <:+: t ++ needle.dropLast) (hu : ¬ needle <:+: u ++ needle.dropLast)
    (h : t ++ needle ++ x = u ++ needle ++ y) : t = u ∧ x = y := by
  -- An occurrence that starts earlier ends before the other does.
  have hsame {v w x y : List Char} (hfirst : ¬ needle <:+: v ++ w ++ needle.dropLast)
      (heq : needle ++ x = w ++ (needle ++ y)) : w = [] := by
    apply Decidable.byContradiction
    intro hw
    have hstart : needle <+: w ++ (needle ++ y) := ⟨x, heq⟩
    have hfront : w ++ needle.dropLast <+: w ++ (needle ++ y) := by
      rw [List.prefix_append_right_inj]
      exact (List.dropLast_prefix needle).trans (List.prefix_append needle y)
    have hlength : needle.length ≤ (w ++ needle.dropLast).length := by
      have hpos := List.length_pos_iff.2 hw
      rw [List.length_append, List.length_dropLast]
      omega
    have hoccurs := (List.prefix_of_prefix_length_le hstart hfront hlength).isInfix
    rw [List.append_assoc] at hfirst
    exact hfirst (hoccurs.trans (List.suffix_append v _).isInfix)
  rw [List.append_assoc, List.append_assoc] at h
  rcases List.append_eq_append_iff.1 h with ⟨w, rfl, heq⟩ | ⟨w, rfl, heq⟩
  · obtain rfl := hsame hu heq
    exact ⟨(List.append_nil t).symm, List.append_cancel_left heq⟩
  · obtain rfl := hsame ht heq
    exact ⟨List.append_nil u, (List.append_cancel_left heq).symm⟩

namespace DocComment

/-! ## Fillers -/

/-- Text that holds no doc comment: plain text, in which no `/**` stands, with plain comments
`/**/` in between. -/
inductive Filler : List Char → Prop
  | plain {text : List Char} (h : ¬ mark <:+: text) : Filler text
  | empty {text rest : List Char} (h : ¬ mark <:+: text) (hrest : Filler rest) :
    Filler (text ++ mark ++ '/' :: rest)

/-- No mark starts at the end of a text and goes on behind it, because it would have to overlap
with another one. -/
theorem plain_of_noMark {text : List Char} (h : ¬ mark <:+: text) : Plain text := by
  rintro ⟨before, after, hsplit⟩
  have hends : (before ++ mark ++ after).reverse = (text ++ ['/', '*']).reverse :=
    congrArg List.reverse hsplit
  simp only [mark, List.reverse_append, List.reverse_cons, List.reverse_nil, List.nil_append,
    List.cons_append] at hends
  cases hafter : after.reverse with
  | nil => simp [hafter] at hends
  | cons c later =>
    cases later with
    | nil => simp [hafter] at hends
    | cons d later =>
      apply h
      refine ⟨before, later.reverse, ?_⟩
      rw [hafter] at hends
      simp only [List.cons_append, List.cons.injEq] at hends
      rw [← List.reverse_inj, ← hends.2.2]
      simp [mark]

/-- Plain text has no mark of a doc comment. -/
theorem Plain.noMark {text : List Char} (h : Plain text) : ¬ mark <:+: text :=
  fun hoccurs => h (hoccurs.trans (List.prefix_append text _).isInfix)

/-- Plain texts in front of equal marks are equal. -/
theorem plain_append_mark_inj {t u x y : List Char} (ht : ¬ mark <:+: t) (hu : ¬ mark <:+: u)
    (h : t ++ mark ++ x = u ++ mark ++ y) : t = u ∧ x = y :=
  Text.first_infix_inj (plain_of_noMark ht) (plain_of_noMark hu) h

section Fillers

variable {f g x y : List Char}

/-- Fillers up to the mark of a doc comment are equal. -/
theorem Filler.append_mark_inj (hf : Filler f) (hg : Filler g) (hx : x.head? ≠ some '/')
    (hy : y.head? ≠ some '/') (h : f ++ mark ++ x = g ++ mark ++ y) : f = g ∧ x = y := by
  induction hf generalizing g with
  | plain ht =>
    cases hg with
    | plain hu => exact plain_append_mark_inj ht hu h
    | empty hu hrest =>
      rw [List.append_assoc (_ ++ mark), List.append_assoc (_ ++ mark)] at h
      obtain ⟨_, rfl⟩ := plain_append_mark_inj ht hu h
      exact absurd rfl hx
  | @empty t rest ht hrest ih =>
    have hfirst : t ++ mark ++ ('/' :: rest ++ mark ++ x) = g ++ mark ++ y := by
      simpa using h
    cases hg with
    | plain hu =>
      obtain ⟨_, rfl⟩ := plain_append_mark_inj ht hu hfirst
      exact absurd rfl hy
    | @empty u others hu hothers =>
      have hsecond : t ++ mark ++ ('/' :: rest ++ mark ++ x) =
          u ++ mark ++ ('/' :: others ++ mark ++ y) := by
        simpa using hfirst
      obtain ⟨rfl, hbehind⟩ := plain_append_mark_inj ht hu hsecond
      obtain ⟨rfl, rfl⟩ := ih hothers (List.cons.inj hbehind).2
      exact ⟨rfl, rfl⟩

/-- The mark of a doc comment does not stand in a filler behind another filler. -/
theorem Filler.append_mark_ne (hf : Filler f) (hg : Filler g) (hx : x.head? ≠ some '/') :
    f ++ mark ++ x ≠ g := by
  intro h
  induction hf generalizing g with
  | @plain t ht =>
    cases hg with
    | plain hu => exact hu ⟨t, x, h⟩
    | empty hu hrest =>
      obtain ⟨_, rfl⟩ := plain_append_mark_inj ht hu h
      exact hx rfl
  | @empty t rest ht hrest ih =>
    cases hg with
    | plain hu => exact hu ⟨t, '/' :: rest ++ mark ++ x, by simpa using h⟩
    | @empty u others hu hothers =>
      have hfirst : t ++ mark ++ ('/' :: rest ++ mark ++ x) = u ++ mark ++ '/' :: others := by
        simpa using h
      obtain ⟨_, hbehind⟩ := plain_append_mark_inj ht hu hfirst
      exact ih hothers (List.cons.inj hbehind).2

/-- Filler in front of a doc comment adds no comment. -/
theorem HasComments.filler {rest : List Char} {others : List (List Char)} {body : List Char}
    (hf : Filler f) (hbody : IsBody body) (h : HasComments rest others) :
    HasComments (f ++ written body ++ rest) (body :: others) := by
  induction hf with
  | plain ht => exact h.comment (plain_of_noMark ht) hbody
  | @empty t gap ht _ ih => simpa using ih.empty (plain_of_noMark ht)

/-- Filler has no comments. -/
theorem Filler.hasComments (hf : Filler f) : HasComments f [] := by
  induction hf with
  | @plain t ht => exact ⟨[], t, rfl, .nil, ht⟩
  | empty ht _ ih => exact ih.empty (plain_of_noMark ht)

end Fillers

/-- What stands behind the start of a doc comment does not start with a slash. -/
theorem IsBody.head?_append_ne {body : List Char} (h : IsBody body) (rest : List Char) :
    (body ++ ['*', '/'] ++ rest).head? ≠ some '/' := by
  cases body with
  | nil => simp
  | cons c body => exact h.slash

/-! ## Splitting -/

/-- Doc comments with the filler in front of each, and the filler behind the last of them. -/
inductive Split where
  | last (filler : List Char)
  | comment (filler body : List Char) (rest : Split)

namespace Split

/-- The source that is split. -/
def text : Split → List Char
  | last filler => filler
  | comment filler body rest => filler ++ written body ++ rest.text

/-- The bodies of the doc comments, in order. -/
def bodies : Split → List (List Char)
  | last _ => []
  | comment _ body rest => body :: rest.bodies

/-- Whether every filler is one, and every body can be the body of a doc comment. -/
def Valid : Split → Prop
  | last filler => Filler filler
  | comment filler body rest => Filler filler ∧ IsBody body ∧ rest.Valid

/-- The split with some text and a plain comment in front. -/
def withEmpty (plain : List Char) : Split → Split
  | last filler => last (plain ++ mark ++ '/' :: filler)
  | comment filler body rest => comment (plain ++ mark ++ '/' :: filler) body rest

variable {s t : Split} {plain : List Char}

@[simp] theorem text_withEmpty : (s.withEmpty plain).text = plain ++ mark ++ '/' :: s.text := by
  cases s <;> simp [withEmpty, text]

@[simp] theorem bodies_withEmpty : (s.withEmpty plain).bodies = s.bodies := by
  cases s <;> rfl

/-- A split stays valid with an empty plain comment in front. -/
theorem Valid.withEmpty (h : s.Valid) (hplain : ¬ mark <:+: plain) : (s.withEmpty plain).Valid := by
  cases s with
  | last filler => exact .empty hplain h
  | comment filler body rest => exact ⟨.empty hplain h.1, h.2⟩

/-- A source splits in one way. -/
theorem text_inj (hs : s.Valid) (ht : t.Valid) (h : s.text = t.text) : s = t := by
  have hopen (filler body : List Char) (rest : Split) : (comment filler body rest).text =
      filler ++ mark ++ (body ++ ['*', '/'] ++ rest.text) := by
    simp [text, written, mark]
  have hclosed {body : List Char} (hbody : IsBody body) : ¬ ['*', '/'] <:+: body ++ ['*'] :=
    fun hoccurs => hbody.closed (Text.infix_of_infix_concat (by decide) hoccurs)
  induction s generalizing t with
  | last filler =>
    cases t with
    | last other => exact congrArg last h
    | comment other body rest =>
      rw [hopen] at h
      exact absurd h.symm (ht.1.append_mark_ne hs (ht.2.1.head?_append_ne _))
  | comment filler body rest ih =>
    obtain ⟨hfiller, hbody, hrest⟩ := hs
    cases t with
    | last other =>
      rw [hopen] at h
      exact absurd h (hfiller.append_mark_ne ht (hbody.head?_append_ne _))
    | comment other body' rest' =>
      obtain ⟨hother, hbody', hrest'⟩ := ht
      rw [hopen, hopen] at h
      obtain ⟨rfl, hinside⟩ := hfiller.append_mark_inj hother (hbody.head?_append_ne _)
        (hbody'.head?_append_ne _) h
      obtain ⟨rfl, hbehind⟩ :=
        Text.first_infix_inj (hclosed hbody) (hclosed hbody') hinside
      rw [ih hrest hrest' hbehind]

/-- The comments of a valid split are those of its text. -/
theorem Valid.hasComments (h : s.Valid) : HasComments s.text s.bodies := by
  induction s with
  | last filler => exact Filler.hasComments h
  | comment filler body rest ih => exact (ih h.2.2).filler h.1 h.2.1

end Split

/-- What closes all its comments has a split. -/
theorem exists_split_of_closed {closed tail : List Char} {bodies : List (List Char)}
    (h : Closed closed bodies) (htail : ¬ mark <:+: tail) :
    ∃ s : Split, s.Valid ∧ s.text = closed ++ tail ∧ s.bodies = bodies := by
  induction h with
  | nil => exact ⟨.last tail, .plain htail, rfl, rfl⟩
  | empty hplain _ ih =>
    obtain ⟨s, hs, htext, rfl⟩ := ih
    exact ⟨s.withEmpty _, hs.withEmpty hplain.noMark, by simp [htext], Split.bodies_withEmpty⟩
  | comment hplain hbody _ ih =>
    obtain ⟨s, hs, htext, rfl⟩ := ih
    exact ⟨.comment _ _ s, ⟨.plain hplain.noMark, hbody, hs⟩, by simp [Split.text, htext], rfl⟩

/-- All doc comments of a source are closed exactly if it splits, and their bodies are those of the
split. -/
theorem hasComments_iff {source : List Char} {found : List (List Char)} :
    HasComments source found ↔ ∃ s : Split, s.Valid ∧ s.text = source ∧ s.bodies = found := by
  constructor
  · rintro ⟨closed, tail, rfl, hclosed, htail⟩
    exact exists_split_of_closed hclosed htail
  · rintro ⟨s, hs, rfl, rfl⟩
    exact hs.hasComments

/-- A doc comment is never closed exactly if what stands in front of it splits. -/
theorem neverClosed_iff {source before : List Char} :
    NeverClosed source before ↔
      ∃ (s : Split) (rest : List Char), s.Valid ∧ s.text = before ∧
        source = before ++ mark ++ rest ∧ rest.head? ≠ some '/' ∧ ¬ ['*', '/'] <:+: rest := by
  constructor
  · rintro ⟨closed, found, plain, rest, rfl, rfl, hclosed, hplain, hslash, hrest⟩
    obtain ⟨s, hs, htext, _⟩ := exists_split_of_closed hclosed hplain.noMark
    exact ⟨s, rest, hs, htext, rfl, hslash, hrest⟩
  · rintro ⟨s, rest, hs, rfl, rfl, hslash, hrest⟩
    obtain ⟨closed, plain, htext, hclosed, hplain⟩ := hs.hasComments
    exact ⟨closed, s.bodies, plain, rest, htext, rfl, hclosed, plain_of_noMark hplain, hslash,
      hrest⟩

end DocComment

end StyleObjects
