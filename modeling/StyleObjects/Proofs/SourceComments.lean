import StyleObjects.Proofs.CommentScan

/-!
# All doc comments of a source

A source consists of closed doc comments and of plain comments `/**/`, with plain text in front of
each, and of what stands behind the last of them: plain text, or a doc comment that is never closed.
The scan takes every source apart in this way.

Main results:

- `hasComments_or_neverClosed`: every source can be taken apart.
- `bodies_eq_ok_iff`: the bodies that are found are those of all doc comments.
- `bodies_eq_error_iff`: the offset that is reported is that of a doc comment which is never closed.
-/

namespace StyleObjects

/-- A text that occurs in another occurs there for a first time. -/
theorem Text.exists_first_infix {needle s : List Char} (hne : needle ≠ []) (h : needle <:+: s) :
    ∃ before after, s = before ++ needle ++ after ∧ ¬ needle <:+: before ++ needle.dropLast := by
  induction s with
  | nil => exact absurd (List.infix_nil.1 h) hne
  | cons c s ih =>
    by_cases hstart : needle <+: c :: s
    · obtain ⟨after, hafter⟩ := hstart
      refine ⟨[], after, by simpa using hafter.symm, fun hoccurs => ?_⟩
      have hlength := hoccurs.length_le
      have hpos := List.length_pos_iff.2 hne
      rw [List.nil_append, List.length_dropLast] at hlength
      omega
    · have hrest : needle <:+: s := (List.infix_cons_iff.1 h).resolve_left hstart
      obtain ⟨before, after, rfl, hfirst⟩ := ih hrest
      refine ⟨c :: before, after, by simp, ?_⟩
      rw [List.cons_append, List.infix_cons_iff]
      rintro (hstarts | hoccurs)
      · have hwhole : c :: (before ++ needle.dropLast) <+: c :: (before ++ needle ++ after) := by
          refine List.prefix_cons_inj c |>.2 ?_
          rw [List.append_assoc, List.prefix_append_right_inj]
          exact (List.dropLast_prefix needle).trans (List.prefix_append needle after)
        exact hstart (hstarts.trans hwhole)
      · exact hfirst hoccurs

namespace DocComment

/-! ## Taking a source apart -/

/-- What a doc comment starts with. -/
def mark : List Char := ['/', '*', '*']

/-- Whether no doc comment starts in a text, even if one starts right behind it. -/
def Plain (text : List Char) : Prop :=
  ¬ mark <:+: text ++ ['/', '*']

/-- Text up to the end of a comment, and the bodies of the doc comments in it. -/
inductive Closed : List Char → List (List Char) → Prop
  | nil : Closed [] []
  | empty {plain rest : List Char} {bodies : List (List Char)} (hplain : Plain plain)
      (hrest : Closed rest bodies) : Closed (plain ++ mark ++ '/' :: rest) bodies
  | comment {plain body rest : List Char} {bodies : List (List Char)} (hplain : Plain plain)
      (hbody : IsBody body) (hrest : Closed rest bodies) :
      Closed (plain ++ written body ++ rest) (body :: bodies)

/-- Whether all doc comments of a source are closed, and their bodies are these. -/
def HasComments (source : List Char) (bodies : List (List Char)) : Prop :=
  ∃ closed tail, source = closed ++ tail ∧ Closed closed bodies ∧ ¬ mark <:+: tail

/-- Whether a doc comment that is never closed stands right behind some text of a source. -/
def NeverClosed (source before : List Char) : Prop :=
  ∃ closed bodies plain rest, before = closed ++ plain ∧ source = before ++ mark ++ rest ∧
    Closed closed bodies ∧ Plain plain ∧ rest.head? ≠ some '/' ∧ ¬ ['*', '/'] <:+: rest

section Composed

variable {plain body rest before : List Char} {others : List (List Char)}

/-- An empty plain comment in front adds no comment. -/
theorem HasComments.empty (hplain : Plain plain) (h : HasComments rest others) :
    HasComments (plain ++ mark ++ '/' :: rest) others := by
  obtain ⟨closed, tail, rfl, hclosed, htail⟩ := h
  exact ⟨plain ++ mark ++ '/' :: closed, tail, by simp, hclosed.empty hplain, htail⟩

/-- A doc comment in front is the first of the comments. -/
theorem HasComments.comment (hplain : Plain plain) (hbody : IsBody body)
    (h : HasComments rest others) :
    HasComments (plain ++ written body ++ rest) (body :: others) := by
  obtain ⟨closed, tail, rfl, hclosed, htail⟩ := h
  exact ⟨plain ++ written body ++ closed, tail, by simp, hclosed.comment hplain hbody, htail⟩

/-- An empty plain comment in front closes nothing. -/
theorem NeverClosed.empty (hplain : Plain plain) (h : NeverClosed rest before) :
    NeverClosed (plain ++ mark ++ '/' :: rest) (plain ++ mark ++ '/' :: before) := by
  obtain ⟨closed, others, gap, unread, rfl, rfl, hclosed, hrest⟩ := h
  exact ⟨plain ++ mark ++ '/' :: closed, others, gap, unread, by simp, by simp,
    hclosed.empty hplain, hrest⟩

/-- A doc comment in front that is closed closes no other. -/
theorem NeverClosed.comment (hplain : Plain plain) (hbody : IsBody body)
    (h : NeverClosed rest before) :
    NeverClosed (plain ++ written body ++ rest) (plain ++ written body ++ before) := by
  obtain ⟨closed, others, gap, unread, rfl, rfl, hclosed, hrest⟩ := h
  exact ⟨plain ++ written body ++ closed, body :: others, gap, unread, by simp, by simp,
    hclosed.comment hplain hbody, hrest⟩

end Composed

/-- Every source can be taken apart. -/
theorem hasComments_or_neverClosed (source : List Char) :
    (∃ bodies, HasComments source bodies) ∨ ∃ before, NeverClosed source before := by
  induction hlength : source.length using Nat.strongRecOn generalizing source with
  | ind length ih =>
    by_cases hmark : mark <:+: source
    · -- The first mark opens a plain comment, or a doc comment that is closed or not.
      obtain ⟨plain, after, rfl, hplain⟩ := Text.exists_first_infix (by decide) hmark
      by_cases hslash : after.head? = some '/'
      · obtain ⟨rest, rfl⟩ : ∃ rest, after = '/' :: rest := List.head?_eq_some_iff.1 hslash
        have hshorter : rest.length < length := by
          simp only [List.length_append, List.length_cons] at hlength
          omega
        exact (ih _ hshorter rest rfl).imp (fun ⟨bodies, h⟩ => ⟨bodies, h.empty hplain⟩)
          fun ⟨before, h⟩ => ⟨_, h.empty hplain⟩
      · by_cases hend : ['*', '/'] <:+: after
        · obtain ⟨body, rest, rfl, hfirst⟩ := Text.exists_first_infix (by decide) hend
          have hshorter : rest.length < length := by
            simp only [List.length_append, List.length_cons] at hlength
            omega
          have hbody : IsBody body := by
            refine ⟨fun hoccurs => hfirst (hoccurs.trans (List.infix_append_left ..)), ?_⟩
            cases body with
            | nil => simp
            | cons d body => exact hslash
          have hwritten : plain ++ mark ++ (body ++ ['*', '/'] ++ rest) =
              plain ++ written body ++ rest := by
            simp [written, mark]
          rw [hwritten]
          exact (ih _ hshorter rest rfl).imp
            (fun ⟨bodies, h⟩ => ⟨_, h.comment hplain hbody⟩)
            fun ⟨before, h⟩ => ⟨_, h.comment hplain hbody⟩
        · exact .inr ⟨plain, [], [], plain, after, rfl, rfl, .nil, hplain, hslash, hend⟩
    · exact .inl ⟨[], [], source, rfl, .nil, hmark⟩

/-! ## Scanning -/

/-- A scan passes over a character that no doc comment starts with. -/
theorem scan_cons {c : Char} {s : List Char} (h : ¬ mark <+: c :: s) (offset : Nat) :
    scan offset .outside (c :: s) = scan (offset + 1) .outside s := by
  rw [scan]
  · rintro rest rfl rfl
    exact h ⟨'/' :: rest, rfl⟩
  · rintro rest rfl rfl
    exact h ⟨rest, rfl⟩

/-- A scan passes over plain text up to the start of a doc comment. -/
theorem scan_plain {plain : List Char} (h : Plain plain) (offset : Nat) (v : List Char) :
    scan offset .outside (plain ++ mark ++ v) =
      scan (offset + plain.length) .outside (mark ++ v) := by
  induction plain generalizing offset with
  | nil => rfl
  | cons c plain ih =>
    have hcons : ¬ mark <:+: c :: (plain ++ ['/', '*']) := h
    rw [List.infix_cons_iff, not_or] at hcons
    have hstart : ¬ mark <+: c :: (plain ++ mark ++ v) := by
      intro hstarts
      have hfront : c :: (plain ++ ['/', '*']) <+: c :: (plain ++ mark ++ v) :=
        ⟨'*' :: v, by simp [mark]⟩
      exact hcons.1 (List.prefix_of_prefix_length_le hstarts hfront (by simp [mark]))
    rw [List.cons_append, List.cons_append, scan_cons hstart, ih hcons.2, List.length_cons,
      Nat.add_assoc, Nat.add_comm 1]

/-- A scan finds nothing in text that no doc comment starts in. -/
theorem scan_tail {tail : List Char} (h : ¬ mark <:+: tail) (offset : Nat) :
    scan offset .outside tail = .ok [] := by
  induction tail generalizing offset with
  | nil => rfl
  | cons c tail ih =>
    rw [List.infix_cons_iff, not_or] at h
    rw [scan_cons h.1, ih h.2]

/-- A scan finds the doc comments of text up to the end of a comment. -/
theorem scan_closed {closed : List Char} {bodies : List (List Char)} (h : Closed closed bodies)
    (offset : Nat) (v : List Char) :
    scan offset .outside (closed ++ v) =
      (scan (offset + closed.length) .outside v).map (bodies ++ ·) := by
  induction h generalizing offset with
  | nil =>
    change scan offset .outside v = (scan offset .outside v).map id
    cases scan offset .outside v <;> rfl
  | @empty plain rest bodies hplain _ ih =>
    have hscan := scan_plain hplain offset ('/' :: (rest ++ v))
    have hpass : scan (offset + plain.length) .outside (mark ++ '/' :: (rest ++ v)) =
        scan (offset + plain.length + 4) .outside (rest ++ v) := by
      rw [mark, List.cons_append, List.cons_append, List.cons_append, List.nil_append, scan]
    have hlength : (plain ++ mark ++ '/' :: rest).length = plain.length + 4 + rest.length := by
      simp [mark]
      omega
    rw [List.append_assoc, List.cons_append, hscan, hpass, ih, hlength]
    simp only [Nat.add_assoc]
  | @comment plain body rest bodies hplain hbody _ ih =>
    have hsplit : plain ++ written body ++ rest ++ v =
        plain ++ mark ++ (body ++ ['*', '/'] ++ (rest ++ v)) := by
      simp [written, mark]
    have hstart : mark ++ (body ++ ['*', '/'] ++ (rest ++ v)) = written body ++ (rest ++ v) := by
      simp [written, mark]
    rw [hsplit, scan_plain hplain, hstart, scan_written hbody, ih]
    simp only [List.length_append, Nat.add_assoc]
    cases scan _ Place.outside v <;> rfl

/-- A scan fails inside of a comment without end. -/
theorem scan_inside_unclosed {rest : List Char} (h : ¬ ['*', '/'] <:+: rest)
    (offset opened : Nat) (read : List Char) :
    scan offset (.inside opened read) rest = .error opened := by
  induction rest generalizing offset read with
  | nil => rfl
  | cons c rest ih =>
    rw [List.infix_cons_iff, not_or] at h
    rw [scan, ih h.2]
    rintro after rfl rfl
    exact h.1 ⟨after, rfl⟩

/-- A scan reports a doc comment that is never closed. -/
theorem scan_unclosed {rest : List Char} (hslash : rest.head? ≠ some '/')
    (h : ¬ ['*', '/'] <:+: rest) (offset : Nat) :
    scan offset .outside (mark ++ rest) = .error offset := by
  rw [mark, List.cons_append, List.cons_append, List.cons_append, List.nil_append, scan,
    scan_inside_unclosed h]
  rintro after rfl
  exact hslash rfl

/-! ## What is found -/

variable {source : List Char}

/-- The comments of a source that closes them all are found. -/
theorem bodies_of_hasComments {found : List (List Char)} (h : HasComments source found) :
    bodies source = .ok found := by
  obtain ⟨closed, tail, rfl, hclosed, htail⟩ := h
  rw [bodies, scan_closed hclosed, scan_tail htail]
  simp [Except.map]

/-- A comment that is never closed is reported where it opens. -/
theorem bodies_of_neverClosed {before : List Char} (h : NeverClosed source before) :
    bodies source = .error before.length := by
  obtain ⟨closed, found, plain, rest, rfl, rfl, hclosed, hplain, hslash, hrest⟩ := h
  rw [bodies, List.append_assoc, List.append_assoc, scan_closed hclosed, ← List.append_assoc,
    scan_plain hplain, scan_unclosed hslash hrest, List.length_append, Nat.zero_add]
  rfl

/-- The bodies that are found are those of all doc comments. -/
theorem bodies_eq_ok_iff {found : List (List Char)} :
    bodies source = .ok found ↔ HasComments source found := by
  refine ⟨fun h => ?_, bodies_of_hasComments⟩
  rcases hasComments_or_neverClosed source with ⟨all, hall⟩ | ⟨before, hbefore⟩
  · rw [bodies_of_hasComments hall] at h
    exact Except.ok.inj h ▸ hall
  · rw [bodies_of_neverClosed hbefore] at h
    cases h

/-- The offset that is reported is that of a doc comment which is never closed. -/
theorem bodies_eq_error_iff {offset : Nat} :
    bodies source = .error offset ↔
      ∃ before, NeverClosed source before ∧ offset = before.length := by
  constructor
  · intro h
    rcases hasComments_or_neverClosed source with ⟨all, hall⟩ | ⟨before, hbefore⟩
    · rw [bodies_of_hasComments hall] at h
      cases h
    · rw [bodies_of_neverClosed hbefore] at h
      exact ⟨before, hbefore, (Except.error.inj h).symm⟩
  · rintro ⟨before, hbefore, rfl⟩
    exact bodies_of_neverClosed hbefore

end DocComment

end StyleObjects
