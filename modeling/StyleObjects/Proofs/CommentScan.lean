import StyleObjects.Extract.DocComment
import StyleObjects.Text.Search

/-!
# The doc comments that a scan finds

A scan passes over text without slashes, reads a doc comment up to the first end of it, and gives
back nothing but what stands between the marks of a doc comment.

Main results:

- `written_append_cases`: where the comments of a source stand that starts with a comment.
- `scan_written`: a doc comment at the start of a source is the first one.
- `split_of_scan`: the first body that is found stands between the marks of a doc comment.
-/

namespace StyleObjects.DocComment

/-- A doc comment with its marks. -/
def written (body : List Char) : List Char :=
  ['/', '*', '*'] ++ body ++ ['*', '/']

/-- Whether a text can be the body of a doc comment: it does not hold the end of one, and with the
marks it is not an empty plain comment. -/
structure IsBody (body : List Char) : Prop where
  closed : ¬ ['*', '/'] <:+: body
  slash : body.head? ≠ some '/'

/-- Up to the first end of a comment, a text splits in one way. -/
theorem body_inj {body body' after after' : List Char} (hbody : '/' ∉ body)
    (hclosed : ¬ ['*', '/'] <:+: body')
    (h : body ++ '*' :: '/' :: after = body' ++ '*' :: '/' :: after') :
    body' = body ∧ after' = after := by
  rcases List.append_eq_append_iff.1 h with ⟨w, rfl, hw⟩ | ⟨w, rfl, hw⟩
  · match w with
    | [] =>
      cases hw
      exact ⟨List.append_nil body, rfl⟩
    | [c] => cases hw
    | c :: d :: w =>
      cases hw
      exact absurd ⟨body, w, by simp⟩ hclosed
  · match w with
    | [] =>
      cases hw
      exact ⟨(List.append_nil body').symm, rfl⟩
    | [c] => cases hw
    | c :: d :: w =>
      cases hw
      simp at hbody

/-- In a source that starts with a comment without slashes, each comment is that one or stands
behind it. -/
theorem written_append_cases {before body body' after after' : List Char} (hbody : '/' ∉ body)
    (hafter : after.head? ≠ some '*') (hclosed : ¬ ['*', '/'] <:+: body')
    (h : written body ++ after = before ++ written body' ++ after') :
    (before = [] ∧ body' = body ∧ after' = after) ∨
      ∃ between, before = written body ++ between ∧ after = between ++ written body' ++ after' := by
  cases before with
  | nil =>
    have hsame : body ++ '*' :: '/' :: after = body' ++ '*' :: '/' :: after' := by
      simpa [written] using h
    obtain ⟨rfl, rfl⟩ := body_inj hbody hclosed hsame
    exact .inl ⟨rfl, rfl, rfl⟩
  | cons c before =>
    have hopening : before ++ '/' :: ('*' :: '*' :: body' ++ '*' :: '/' :: after') =
        ('*' :: '*' :: body ++ ['*']) ++ '/' :: after := by
      simpa [written] using (List.cons.inj h).2.symm
    obtain ⟨w, rfl, hw⟩ := Text.append_cons_eq_append hopening (by simpa using hbody)
    cases w with
    | nil =>
      cases hw
      exact absurd rfl hafter
    | cons d between =>
      obtain ⟨rfl, rfl⟩ := List.cons.inj hw
      obtain rfl := (List.cons.inj h).1
      exact .inr ⟨between, by simp [written], by simp [written]⟩

/-! ## Reading comments -/

/-- A scan passes over text without slashes. -/
theorem scan_skip {u : List Char} (h : '/' ∉ u) (offset : Nat) (v : List Char) :
    scan offset .outside (u ++ v) = scan (offset + u.length) .outside v := by
  induction u generalizing offset with
  | nil => rfl
  | cons c u ih =>
    simp only [List.mem_cons, not_or] at h
    rw [List.cons_append, scan]
    · rw [ih h.2, List.length_cons, Nat.add_assoc, Nat.add_comm 1]
    · rintro _ rfl
      exact absurd rfl h.1
    · rintro _ rfl
      exact absurd rfl h.1

/-- Behind its first character, too, a body does not hold the end of a comment. -/
theorem not_infix_tail {c : Char} {body : List Char} (h : ¬ ['*', '/'] <:+: c :: body) :
    ¬ ['*', '/'] <:+: body :=
  fun hoccurs => h (hoccurs.trans (List.suffix_cons c body).isInfix)

/-- Inside of a comment, a scan reads on to the first end. -/
theorem scan_inside {body : List Char} (h : ¬ ['*', '/'] <:+: body) (offset opened : Nat)
    (read v : List Char) :
    scan offset (.inside opened read) (body ++ ['*', '/'] ++ v) =
      (scan (offset + body.length + 2) .outside v).map ((read.reverse ++ body) :: ·) := by
  induction body generalizing offset read with
  | nil => simp [scan]
  | cons c body ih =>
    have hrest := ih (not_infix_tail h) (offset + 1) (c :: read)
    rw [List.cons_append, List.cons_append, scan]
    · rw [hrest]
      simp [Nat.add_assoc, Nat.add_comm, Nat.add_left_comm]
    · rintro rest rfl hend
      cases body with
      | nil => simp at hend
      | cons d body =>
        obtain rfl : d = '/' := (List.cons.inj hend).1
        exact h ⟨[], body, rfl⟩

/-- A doc comment at the start of a source is the first one. -/
theorem scan_written {body : List Char} (h : IsBody body) (offset : Nat) (v : List Char) :
    scan offset .outside (written body ++ v) =
      (scan (offset + (written body).length) .outside v).map (body :: ·) := by
  have hstart : written body ++ v = '/' :: '*' :: '*' :: (body ++ ['*', '/'] ++ v) := by
    simp [written]
  have hlength : offset + (written body).length = offset + 3 + body.length + 2 := by
    simp [written]
    omega
  rw [hstart, hlength, scan, scan_inside h.closed]
  · rfl
  · intro rest hrest
    have hslash := h.slash
    cases body with
    | nil => simp at hrest
    | cons d body =>
      obtain rfl : d = '/' := (List.cons.inj hrest).1
      exact hslash rfl

/-! ## What is found -/

/-- Inside of a comment, the first body that is found goes on up to the end of the comment. -/
theorem split_of_scan_inside {offset opened : Nat} {read s body : List Char}
    {others : List (List Char)}
    (h : scan offset (.inside opened read) s = .ok (body :: others)) :
    ∃ unread after, body = read.reverse ++ unread ∧ s = unread ++ ['*', '/'] ++ after ∧
      ¬ ['*', '/'] <:+: unread := by
  induction s generalizing offset read with
  | nil => cases h
  | cons c s ih =>
    by_cases hend : ∃ after, c = '*' ∧ s = '/' :: after
    · obtain ⟨after, rfl, rfl⟩ := hend
      rw [scan] at h
      cases hscan : scan (offset + 2) .outside after with
      | error _ =>
        rw [hscan] at h
        cases h
      | ok found =>
        rw [hscan] at h
        obtain ⟨rfl, rfl⟩ := List.cons.inj (Except.ok.inj h)
        exact ⟨[], after, by simp, rfl, by simp⟩
    · have hmiss : ∀ after, c = '*' → s = '/' :: after → False :=
        fun after hc hs => hend ⟨after, hc, hs⟩
      have hnext : scan (offset + 1) (.inside opened (c :: read)) s = .ok (body :: others) := by
        rwa [scan] at h
        exact hmiss
      obtain ⟨unread, after, rfl, rfl, hunread⟩ := ih hnext
      refine ⟨c :: unread, after, by simp, rfl, ?_⟩
      rw [List.infix_cons_iff]
      rintro (⟨tail, htail⟩ | hoccurs)
      · obtain ⟨rfl, rfl⟩ := List.cons.inj htail
        exact hmiss _ rfl rfl
      · exact hunread hoccurs

/-- The first body that is found stands between the marks of a doc comment. -/
theorem split_of_scan {offset : Nat} {s body : List Char} {others : List (List Char)}
    (h : scan offset .outside s = .ok (body :: others)) :
    ∃ before after, s = before ++ written body ++ after ∧ IsBody body := by
  generalize hplace : Place.outside = place at h
  fun_induction scan offset place s generalizing body others with
  | case1 => cases h
  | case2 => cases hplace
  | case3 offset rest ih =>
    obtain ⟨before, after, rfl, hbody⟩ := ih rfl h
    exact ⟨['/', '*', '*', '/'] ++ before, after, by simp, hbody⟩
  | case4 offset rest hslash ih =>
    obtain ⟨unread, after, rfl, rfl, hclosed⟩ := split_of_scan_inside h
    refine ⟨[], after, by simp [written], hclosed, ?_⟩
    intro hhead
    cases body with
    | nil => cases hhead
    | cons d body =>
      obtain rfl : d = '/' := Option.some.inj hhead
      exact hslash _ rfl
  | case5 offset c s _ _ ih =>
    obtain ⟨before, after, rfl, hbody⟩ := ih rfl h
    exact ⟨c :: before, after, by simp, hbody⟩
  | case6 => cases hplace
  | case7 => cases hplace

end StyleObjects.DocComment
