import Mathlib.Data.String.Basic
import StyleObjects.Proofs.SourceSplit

/-!
# Scanning for doc comments by bytes

Offsets into a source may also be counted in bytes of UTF-8, so that a slice of the source exists
only if it starts and ends between characters.  A scan that goes by such offsets searches for the
next mark from where it stands, then for the end of the comment, and starts again behind it.  All
slices that it takes exist, since every offset it comes to is that of some text in front, and it
finds the same doc comments.

Main results:

- `round_advances`: a round of the scan goes on behind where it started.
- `scanBytes_eq`: the scan takes no slice that does not exist, and agrees with the one by characters.
- `bodies_eq_split`: what is found, in terms of the one way to split a source.
-/

namespace StyleObjects

open String (utf8Len utf8Len_append utf8Len_cons utf8Len_eq_zero)

namespace Text

/-! ## Slices -/

/-- The text in front of a byte offset and the text behind it, if the offset lies between characters
or at an end. -/
def splitBytes? : Nat → List Char → Option (List Char × List Char)
  | 0, s => some ([], s)
  | _ + 1, [] => none
  | n + 1, c :: s =>
    if c.utf8Size ≤ n + 1 then
      (splitBytes? (n + 1 - c.utf8Size) s).map fun parts => (c :: parts.1, parts.2)
    else none

/-- A split at a number of bytes gives the front part that takes so many. -/
theorem splitBytes?_eq_some_iff {n : Nat} {s before after : List Char} :
    splitBytes? n s = some (before, after) ↔ s = before ++ after ∧ utf8Len before = n := by
  fun_induction splitBytes? n s generalizing before with
  | case1 s =>
    constructor
    · intro h
      obtain ⟨rfl, rfl⟩ := Prod.mk.inj (Option.some.inj h)
      exact ⟨rfl, rfl⟩
    · rintro ⟨rfl, hlength⟩
      rw [utf8Len_eq_zero.1 hlength]
      rfl
  | case2 n =>
    constructor
    · intro h
      cases h
    · rintro ⟨hs, hlength⟩
      rw [(List.append_eq_nil_iff.1 hs.symm).1] at hlength
      cases hlength
  | case3 n c s hfits ih =>
    rw [Option.map_eq_some_iff]
    constructor
    · rintro ⟨⟨read, rest⟩, hrest, heq⟩
      obtain ⟨rfl, rfl⟩ := Prod.mk.inj heq
      obtain ⟨rfl, hlength⟩ := ih.1 hrest
      refine ⟨rfl, ?_⟩
      rw [utf8Len_cons, hlength]
      omega
    · rintro ⟨hs, hlength⟩
      cases before with
      | nil => cases hlength
      | cons d before =>
        obtain ⟨rfl, rfl⟩ := List.cons.inj hs
        rw [utf8Len_cons] at hlength
        exact ⟨(before, after), ih.2 ⟨rfl, by omega⟩, rfl⟩
  | case4 n c s hfits =>
    constructor
    · intro h
      cases h
    · rintro ⟨hs, hlength⟩
      cases before with
      | nil => cases hlength
      | cons d before =>
        obtain ⟨rfl, rfl⟩ := List.cons.inj hs
        rw [utf8Len_cons] at hlength
        omega

/-- The text from a byte offset on, if it exists. -/
def sliceFrom? (s : List Char) (start : Nat) : Option (List Char) :=
  (splitBytes? start s).map (·.2)

/-- The text between two byte offsets, if it exists. -/
def slice? (s : List Char) (start stop : Nat) : Option (List Char) := do
  let rest ← sliceFrom? s start
  if start ≤ stop then (splitBytes? (stop - start) rest).map (·.1) else none

/-- A slice from an offset is what follows a front part of so many bytes. -/
theorem sliceFrom?_eq_some_iff {s rest : List Char} {start : Nat} :
    sliceFrom? s start = some rest ↔ ∃ before, s = before ++ rest ∧ utf8Len before = start := by
  rw [sliceFrom?, Option.map_eq_some_iff]
  constructor
  · rintro ⟨⟨before, after⟩, hparts, rfl⟩
    exact ⟨before, splitBytes?_eq_some_iff.1 hparts⟩
  · rintro ⟨before, hparts⟩
    exact ⟨(before, rest), splitBytes?_eq_some_iff.2 hparts, rfl⟩

/-- A slice that starts behind some text exists. -/
theorem sliceFrom?_append (before rest : List Char) :
    sliceFrom? (before ++ rest) (utf8Len before) = some rest :=
  sliceFrom?_eq_some_iff.2 ⟨before, rfl, rfl⟩

/-- A slice between two texts exists. -/
theorem slice?_append (before middle after : List Char) :
    slice? (before ++ (middle ++ after)) (utf8Len before) (utf8Len before + utf8Len middle) =
      some middle := by
  have hsplit : splitBytes? (utf8Len middle) (middle ++ after) = some (middle, after) :=
    splitBytes?_eq_some_iff.2 ⟨rfl, rfl⟩
  simp [slice?, sliceFrom?_append, hsplit]

/-! ## Searching -/

/-- The byte offset of the first occurrence of a text in another. -/
def findBytes? (needle s : List Char) : Option Nat :=
  (cut? needle s).map fun parts => utf8Len parts.1

/-- A text that does not occur cannot be cut out. -/
theorem cut?_eq_none {needle s : List Char} (h : ¬ needle <:+: s) : cut? needle s = none := by
  cases hcut : cut? needle s with
  | none => rfl
  | some parts => exact absurd ⟨parts.1, parts.2, (eq_append_of_cut? hcut).symm⟩ h

/-- A text is cut at the first occurrence of a mark. -/
theorem cut?_first {needle before after : List Char}
    (h : ¬ needle <:+: before ++ needle.dropLast) :
    cut? needle (before ++ needle ++ after) = some (before, after) := by
  induction before with
  | nil =>
    cases needle with
    | nil => exact absurd (List.infix_refl _) h
    | cons c needle =>
      have hstart : dropStart? (c :: needle) (c :: (needle ++ after)) = some after :=
        dropStart?_eq_some_iff.2 rfl
      simp [cut?, hstart]
  | cons c before ih =>
    rw [List.cons_append, List.infix_cons_iff, not_or] at h
    have hmiss : dropStart? needle (c :: (before ++ needle ++ after)) = none := by
      cases hstart : dropStart? needle (c :: (before ++ needle ++ after)) with
      | none => rfl
      | some rest =>
        -- An occurrence at the start would end before the first one does.
        have hprefix : needle <+: c :: (before ++ needle ++ after) :=
          ⟨rest, (dropStart?_eq_some_iff.1 hstart).symm⟩
        have hfront : c :: (before ++ needle.dropLast) <+: c :: (before ++ needle ++ after) := by
          rw [List.prefix_cons_inj, List.append_assoc, List.prefix_append_right_inj]
          exact (List.dropLast_prefix needle).trans (List.prefix_append needle after)
        have hlength : needle.length ≤ (c :: (before ++ needle.dropLast)).length := by
          rw [List.length_cons, List.length_append, List.length_dropLast]
          omega
        exact absurd (List.prefix_of_prefix_length_le hprefix hfront hlength) h.1
    rw [List.cons_append, List.cons_append, cut?, hmiss, ih h.2]
    rfl

end Text

namespace DocComment

open Text

/-! ## Rounds -/

/-- What a round of the scan comes to. -/
inductive Round where
  /-- There is no further mark. -/
  | finished
  /-- The doc comment at an offset is never closed. -/
  | unclosed (offset : Nat)
  /-- A plain comment was passed over, and the scan goes on at an offset. -/
  | passed (next : Nat)
  /-- A doc comment was read, and the scan goes on at an offset. -/
  | found (body : List Char) (next : Nat)

/-- A round of the scan from an offset on, or nothing if it takes a slice that does not exist. -/
def round? (source : List Char) (pos : Nat) : Option Round := do
  let rest ← sliceFrom? source pos
  match findBytes? mark rest with
  | none => pure .finished
  | some gap =>
    let opened := pos + gap
    let start := opened + 3
    let inside ← sliceFrom? source start
    if inside.head? = some '/' then pure (.passed (start + 1))
    else
      match findBytes? ['*', '/'] inside with
      | none => pure (.unclosed opened)
      | some length =>
        let body ← slice? source start (start + length)
        pure (.found body (start + length + 2))

/-- The offset that the scan goes on at. -/
def Round.next? : Round → Option Nat
  | finished => none
  | unclosed _ => none
  | passed next => some next
  | found _ next => some next

/-- A round that does not end the scan goes on behind where it started. -/
theorem round_advances {source : List Char} {pos next : Nat} {result : Round}
    (h : round? source pos = some result) (hnext : result.next? = some next) :
    pos < next ∧ pos < utf8Len source := by
  obtain ⟨rest, hrest, h⟩ := Option.bind_eq_some_iff.1 h
  obtain ⟨before, rfl, hpos⟩ := sliceFrom?_eq_some_iff.1 hrest
  cases hgap : findBytes? mark rest with
  | none =>
    simp only [hgap] at h
    obtain rfl := Option.some.inj h
    cases hnext
  | some gap =>
    have hmark : 3 ≤ utf8Len rest := by
      obtain ⟨parts, hparts, _⟩ := Option.map_eq_some_iff.1 hgap
      rw [eq_append_of_cut? hparts, utf8Len_append, utf8Len_append]
      have : utf8Len mark = 3 := by decide
      omega
    simp only [hgap] at h
    obtain ⟨inside, _, h⟩ := Option.bind_eq_some_iff.1 h
    refine ⟨?_, by rw [utf8Len_append]; omega⟩
    split at h
    · obtain rfl := Option.some.inj h
      obtain rfl := Option.some.inj hnext
      omega
    · split at h
      · obtain rfl := Option.some.inj h
        cases hnext
      · obtain ⟨body, _, h⟩ := Option.bind_eq_some_iff.1 h
        obtain rfl := Option.some.inj h
        obtain rfl := Option.some.inj hnext
        omega

/-- Scans a source from a byte offset on, behind some doc comments that were found.  Gives the bodies
of all doc comments or the offset of one that is never closed, and nothing if it takes a slice that
does not exist. -/
def scanBytes (source : List Char) (found : List (List Char)) (pos : Nat) :
    Option (Except Nat (List (List Char))) :=
  match h : round? source pos with
  | none => none
  | some .finished => some (.ok found)
  | some (.unclosed offset) => some (.error offset)
  | some (.passed next) =>
    have := round_advances h rfl
    scanBytes source found next
  | some (.found body next) =>
    have := round_advances h rfl
    scanBytes source (found ++ [body]) next
termination_by utf8Len source - pos

/-! ## What a round does -/

section Rounds

variable {plain : List Char} (before : List Char)

/-- A round finds nothing in text that no doc comment starts in. -/
theorem round_tail {tail : List Char} (h : ¬ mark <:+: tail) :
    round? (before ++ tail) (utf8Len before) = some .finished := by
  have hnone : findBytes? mark tail = none := by
    rw [findBytes?, cut?_eq_none h]
    rfl
  rw [round?, sliceFrom?_append]
  simp [hnone]

/-- A round comes to the first mark, and what it does depends on the text behind that. -/
theorem round_mark (h : Plain plain) (rest : List Char) :
    round? (before ++ (plain ++ mark ++ rest)) (utf8Len before) =
      if rest.head? = some '/' then some (.passed (utf8Len (before ++ plain ++ mark) + 1))
      else
        match findBytes? ['*', '/'] rest with
        | none => some (.unclosed (utf8Len (before ++ plain)))
        | some length =>
          (slice? (before ++ (plain ++ mark ++ rest)) (utf8Len (before ++ plain ++ mark))
            (utf8Len (before ++ plain ++ mark) + length)).map
              fun body => .found body (utf8Len (before ++ plain ++ mark) + length + 2) := by
  have hgap : findBytes? mark (plain ++ mark ++ rest) = some (utf8Len plain) := by
    rw [findBytes?, cut?_first h]
    rfl
  have hinside : sliceFrom? (before ++ (plain ++ mark ++ rest)) (utf8Len (before ++ plain ++ mark)) =
      some rest := by
    simpa using sliceFrom?_append (before ++ plain ++ mark) rest
  have hopened : utf8Len before + utf8Len plain = utf8Len (before ++ plain) :=
    (utf8Len_append _ _).symm
  have hstart : utf8Len (before ++ plain) + 3 = utf8Len (before ++ plain ++ mark) :=
    (utf8Len_append _ mark).symm
  rw [round?, sliceFrom?_append]
  simp only [Option.bind_eq_bind, Option.bind_some, hgap, hopened, hstart, hinside]
  split
  · rfl
  · split
    · rfl
    · rw [Option.map_eq_bind]
      rfl

/-- A round passes over a plain comment. -/
theorem round_empty (h : Plain plain) (rest : List Char) :
    round? (before ++ (plain ++ mark ++ '/' :: rest)) (utf8Len before) =
      some (.passed (utf8Len (before ++ (plain ++ mark ++ ['/'])))) := by
  have hnext : utf8Len (before ++ plain ++ mark) + 1 =
      utf8Len (before ++ (plain ++ mark ++ ['/'])) := by
    simp only [utf8Len_append, utf8Len_cons, Nat.add_assoc]
    rfl
  rw [round_mark before h, if_pos List.head?_cons, hnext]

/-- A round reads a doc comment. -/
theorem round_comment {body : List Char} (h : Plain plain) (hbody : IsBody body)
    (rest : List Char) :
    round? (before ++ (plain ++ written body ++ rest)) (utf8Len before) =
      some (.found body (utf8Len (before ++ (plain ++ written body)))) := by
  have hsplit : before ++ (plain ++ written body ++ rest) =
      before ++ (plain ++ mark ++ (body ++ ['*', '/'] ++ rest)) := by
    simp [written, mark]
  have hclosed : ¬ ['*', '/'] <:+: body ++ ['*'] :=
    fun hoccurs => hbody.closed (Text.infix_of_infix_concat (by decide) hoccurs)
  have hlength : findBytes? ['*', '/'] (body ++ ['*', '/'] ++ rest) = some (utf8Len body) := by
    rw [findBytes?, cut?_first hclosed]
    rfl
  have hslice : slice? (before ++ (plain ++ mark ++ (body ++ ['*', '/'] ++ rest)))
      (utf8Len (before ++ plain ++ mark)) (utf8Len (before ++ plain ++ mark) + utf8Len body) =
        some body := by
    simpa using slice?_append (before ++ plain ++ mark) body (['*', '/'] ++ rest)
  have hnext : utf8Len (before ++ plain ++ mark) + utf8Len body + 2 =
      utf8Len (before ++ (plain ++ written body)) := by
    have hwritten : before ++ (plain ++ written body) =
        before ++ plain ++ mark ++ body ++ ['*', '/'] := by
      simp [written, mark]
    rw [hwritten, utf8Len_append _ ['*', '/'], utf8Len_append _ body]
    rfl
  rw [hsplit, round_mark before h, if_neg (hbody.head?_append_ne rest), hlength]
  simp only [hslice, hnext, Option.map_some]

/-- A round comes upon a doc comment that is never closed. -/
theorem round_unclosed {rest : List Char} (h : Plain plain) (hslash : rest.head? ≠ some '/')
    (hrest : ¬ ['*', '/'] <:+: rest) :
    round? (before ++ (plain ++ mark ++ rest)) (utf8Len before) =
      some (.unclosed (utf8Len (before ++ plain))) := by
  have hnone : findBytes? ['*', '/'] rest = none := by
    rw [findBytes?, cut?_eq_none hrest]
    rfl
  rw [round_mark before h, if_neg hslash, hnone]

end Rounds

/-! ## The whole scan -/

section Runs

variable {source : List Char} {found : List (List Char)} {pos : Nat}

/-- Without another comment the scan is over. -/
theorem scanBytes_of_finished (h : round? source pos = some .finished) :
    scanBytes source found pos = some (.ok found) := by
  rw [scanBytes]
  split <;> simp_all

/-- At a comment that is never closed the scan fails. -/
theorem scanBytes_of_unclosed {offset : Nat} (h : round? source pos = some (.unclosed offset)) :
    scanBytes source found pos = some (.error offset) := by
  rw [scanBytes]
  split <;> simp_all

/-- After an empty plain comment the scan goes on behind it. -/
theorem scanBytes_of_passed {next : Nat} (h : round? source pos = some (.passed next)) :
    scanBytes source found pos = scanBytes source found next := by
  rw [scanBytes]
  split <;> simp_all

/-- After a comment the scan goes on behind it, with the body added. -/
theorem scanBytes_of_found {body : List Char} {next : Nat}
    (h : round? source pos = some (.found body next)) :
    scanBytes source found pos = scanBytes source (found ++ [body]) next := by
  rw [scanBytes]
  split <;> simp_all

end Runs

/-- The scan finds the doc comments of text up to the end of a comment. -/
theorem scanBytes_closed {closed : List Char} {bodies : List (List Char)}
    (h : Closed closed bodies) (before rest : List Char) (found : List (List Char)) :
    scanBytes (before ++ (closed ++ rest)) found (utf8Len before) =
      scanBytes (before ++ (closed ++ rest)) (found ++ bodies) (utf8Len (before ++ closed)) := by
  induction h generalizing before found with
  | nil => simp
  | @empty plain closed bodies hplain _ ih =>
    have hround := round_empty before hplain (closed ++ rest)
    have htail := ih (before ++ (plain ++ mark ++ ['/'])) found
    have hsource : before ++ (plain ++ mark ++ '/' :: closed ++ rest) =
        before ++ (plain ++ mark ++ '/' :: (closed ++ rest)) := by
      simp
    have hagain : before ++ (plain ++ mark ++ ['/']) ++ (closed ++ rest) =
        before ++ (plain ++ mark ++ '/' :: (closed ++ rest)) := by
      simp
    have hend : before ++ (plain ++ mark ++ ['/']) ++ closed =
        before ++ (plain ++ mark ++ '/' :: closed) := by
      simp
    rw [hagain, hend] at htail
    rw [hsource, scanBytes_of_passed hround, htail]
  | @comment plain body closed bodies hplain hbody _ ih =>
    have hround := round_comment before hplain hbody (closed ++ rest)
    have htail := ih (before ++ (plain ++ written body)) (found ++ [body])
    have hsource : before ++ (plain ++ written body ++ closed ++ rest) =
        before ++ (plain ++ written body ++ (closed ++ rest)) := by
      simp
    have hagain : before ++ (plain ++ written body) ++ (closed ++ rest) =
        before ++ (plain ++ written body ++ (closed ++ rest)) := by
      simp
    have hend : before ++ (plain ++ written body) ++ closed =
        before ++ (plain ++ written body ++ closed) := by
      simp
    have hfound : found ++ [body] ++ bodies = found ++ body :: bodies := by
      simp
    rw [hagain, hend, hfound] at htail
    rw [hsource, scanBytes_of_found hround, htail]

/-- The scan of the bytes finds the comments of a source that closes them all. -/
theorem scanBytes_of_hasComments {source : List Char} {found : List (List Char)}
    (h : HasComments source found) : scanBytes source [] 0 = some (.ok found) := by
  obtain ⟨closed, tail, rfl, hclosed, htail⟩ := h
  have hscan := scanBytes_closed hclosed [] tail []
  rw [List.nil_append, List.nil_append, List.nil_append, String.utf8Len_nil] at hscan
  rw [hscan, scanBytes_of_finished (round_tail closed htail)]

/-- The scan of the bytes reports where a comment opens that is never closed. -/
theorem scanBytes_of_neverClosed {source before : List Char} (h : NeverClosed source before) :
    scanBytes source [] 0 = some (.error (utf8Len before)) := by
  obtain ⟨closed, found, plain, rest, rfl, rfl, hclosed, hplain, hslash, hrest⟩ := h
  have hscan := scanBytes_closed hclosed [] (plain ++ mark ++ rest) []
  have hsource : closed ++ plain ++ mark ++ rest = closed ++ (plain ++ mark ++ rest) := by
    simp
  rw [List.nil_append, List.nil_append, List.nil_append, String.utf8Len_nil] at hscan
  rw [hsource, hscan, scanBytes_of_unclosed (round_unclosed closed hplain hslash hrest)]

/-- The scan takes no slice that does not exist, and agrees with the one by characters. -/
theorem scanBytes_eq (source : List Char) :
    scanBytes source [] 0 =
      some ((bodies source).mapError fun offset => utf8Len (source.take offset)) := by
  rcases hasComments_or_neverClosed source with ⟨found, h⟩ | ⟨before, h⟩
  · rw [scanBytes_of_hasComments h, bodies_of_hasComments h]
    rfl
  · rw [scanBytes_of_neverClosed h, bodies_of_neverClosed h]
    obtain ⟨_, _, _, rest, _, rfl, _⟩ := h
    simp [Except.mapError]

/-! ## What is found -/

/-- Whether a source is taken apart by a split. -/
def Split.Splits (s : Split) (source : List Char) : Prop :=
  s.Valid ∧ s.text = source

/-- Whether a doc comment that is never closed stands in a source right behind a split. -/
def Split.StopsIn (s : Split) (source : List Char) : Prop :=
  s.Valid ∧ ∃ rest, source = s.text ++ mark ++ rest ∧ rest.head? ≠ some '/' ∧
    ¬ ['*', '/'] <:+: rest

/-- A source splits in one way if its doc comments are closed, and the bodies of the split are what
is found.  Otherwise a doc comment that is never closed stands behind a split, and its offset is what
is reported, in characters or in bytes.  The scan by bytes takes no slice that does not exist, so
that one of the two always happens. -/
theorem bodies_eq_split (source : List Char) :
    (∀ found, bodies source = .ok found ↔
      ∃ s : Split, s.Splits source ∧ s.bodies = found) ∧
    (∀ s t : Split, s.Splits source → t.Splits source → s = t) ∧
    (∀ offset, bodies source = .error offset ↔
      ∃ s : Split, s.StopsIn source ∧ offset = s.text.length) ∧
    (∀ found, scanBytes source [] 0 = some (.ok found) ↔
      ∃ s : Split, s.Splits source ∧ s.bodies = found) ∧
    (∀ offset, scanBytes source [] 0 = some (.error offset) ↔
      ∃ s : Split, s.StopsIn source ∧ offset = utf8Len s.text) ∧
    scanBytes source [] 0 =
      some ((bodies source).mapError fun offset => utf8Len (source.take offset)) := by
  have hfound (found : List (List Char)) : bodies source = .ok found ↔
      ∃ s : Split, s.Splits source ∧ s.bodies = found := by
    rw [bodies_eq_ok_iff, hasComments_iff]
    simp only [Split.Splits, and_assoc]
  have hstops (offset : Nat) : bodies source = .error offset ↔
      ∃ s : Split, s.StopsIn source ∧ offset = s.text.length := by
    rw [bodies_eq_error_iff]
    simp only [neverClosed_iff]
    constructor
    · rintro ⟨_, ⟨s, rest, hs, rfl, hrest⟩, hoffset⟩
      exact ⟨s, ⟨hs, rest, hrest⟩, hoffset⟩
    · rintro ⟨s, ⟨hs, rest, hrest⟩, hoffset⟩
      exact ⟨s.text, ⟨s, rest, hs, rfl, hrest⟩, hoffset⟩
  refine ⟨hfound, ?_, hstops, ?_, ?_, scanBytes_eq source⟩
  · rintro s t ⟨hs, rfl⟩ ⟨ht, hsame⟩
    exact Split.text_inj hs ht hsame.symm
  · intro found
    rw [← hfound, scanBytes_eq]
    cases bodies source <;> simp [Except.mapError]
  · intro offset
    have htake {s : Split} (h : s.StopsIn source) : source.take s.text.length = s.text := by
      obtain ⟨_, rest, rfl, _⟩ := h
      simp
    rw [scanBytes_eq]
    constructor
    · intro h
      cases hbodies : bodies source with
      | ok found => simp [hbodies, Except.mapError] at h
      | error reached =>
        obtain ⟨s, hs, rfl⟩ := (hstops reached).1 hbodies
        rw [hbodies] at h
        simp only [Except.mapError, htake hs, Option.some.injEq, Except.error.injEq] at h
        exact ⟨s, hs, h.symm⟩
    · rintro ⟨s, hs, rfl⟩
      rw [(hstops s.text.length).2 ⟨s, hs, rfl⟩]
      simp [Except.mapError, htake hs]

/-- A plain comment, a doc comment that ends with two stars, and one without a body. -/
def sampleSplit : Split :=
  .comment ['/', '*', '*', '/'] [' ', 'é', '*'] (.comment [] [] (.last []))

theorem valid_sampleSplit : sampleSplit.Valid := by
  have hnil : ¬ mark <:+: [] := by decide
  exact ⟨.empty hnil (.plain hnil), ⟨by decide, by decide⟩, .plain hnil, ⟨by decide, by decide⟩,
    .plain hnil⟩

theorem bodies_eq_split_sample :
    bodies ['/', '*', '*', '/', '/', '*', '*', ' ', 'é', '*', '*', '/', '/', '*', '*', '*', '/'] =
        .ok [[' ', 'é', '*'], []] ∧
      sampleSplit = (Split.comment [] [' ', 'é', '*'] (.comment [] [] (.last []))).withEmpty [] ∧
      scanBytes (sampleSplit.text ++ ['/', '*', '*', ' ', 'b', '*']) [] 0 = some (.error 18) := by
  have hvalid := valid_sampleSplit
  refine ⟨((bodies_eq_split sampleSplit.text).1 _).2 ⟨sampleSplit, ⟨hvalid, rfl⟩, rfl⟩,
    (bodies_eq_split sampleSplit.text).2.1 _ _ ⟨hvalid, rfl⟩ ⟨hvalid, rfl⟩, ?_⟩
  exact ((bodies_eq_split _).2.2.2.2.1 18).2
    ⟨sampleSplit, ⟨hvalid, [' ', 'b', '*'], by decide, by decide, by decide⟩, by decide⟩

end DocComment

end StyleObjects
