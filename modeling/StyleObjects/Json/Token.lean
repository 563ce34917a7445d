import StyleObjects.Json.Numeral

/-!
# Tokens of JSON

A JSON text is cut into punctuation and scalars.  Strings are unescaped here: an escape may name a
UTF-16 code unit, two of which make one character when they are surrogates, and a surrogate alone
is refused.

Main results:

- `readString_length`, `readNumeral_length`: reading a scalar leaves a shorter text.
-/

namespace StyleObjects.Json

/-- A token of a JSON text. -/
inductive Token where
  | openArray
  | closeArray
  | openObject
  | closeObject
  | comma
  | colon
  | scalar (value : Json)
deriving Repr

/-! ## Strings -/

/-- The value of a hexadecimal digit. -/
def hexDigit? (c : Char) : Option Nat :=
  if '0' ≤ c ∧ c ≤ '9' then some (c.toNat - '0'.toNat)
  else if 'a' ≤ c ∧ c ≤ 'f' then some (c.toNat - 'a'.toNat + 10)
  else if 'A' ≤ c ∧ c ≤ 'F' then some (c.toNat - 'A'.toNat + 10)
  else none

/-- Reads four hexadecimal digits. -/
def readUnit : List Char → Option (Nat × List Char)
  | a :: b :: c :: d :: s => do
    let a ← hexDigit? a
    let b ← hexDigit? b
    let c ← hexDigit? c
    let d ← hexDigit? d
    pure (((a * 16 + b) * 16 + c) * 16 + d, s)
  | _ => none

/-- Reads the character that an escape names, after its `\u`. -/
def readCodePoint (s : List Char) : Option (Char × List Char) := do
  let (unit, s) ← readUnit s
  if 0xDC00 ≤ unit ∧ unit ≤ 0xDFFF then none
  else if 0xD800 ≤ unit ∧ unit ≤ 0xDBFF then
    match s with
    | '\\' :: 'u' :: s => do
      let (second, s) ← readUnit s
      if 0xDC00 ≤ second ∧ second ≤ 0xDFFF then
        pure (Char.ofNat (0x10000 + (unit - 0xD800) * 0x400 + (second - 0xDC00)), s)
      else none
    | _ => none
  else pure (Char.ofNat unit, s)

/-- Reads one escape, after its backslash. -/
def readEscape : List Char → Option (Char × List Char)
  | 'u' :: s => readCodePoint s
  | '"' :: s => some ('"', s)
  | '\\' :: s => some ('\\', s)
  | '/' :: s => some ('/', s)
  | 'b' :: s => some ('\x08', s)
  | 'f' :: s => some ('\x0c', s)
  | 'n' :: s => some ('\n', s)
  | 'r' :: s => some ('\r', s)
  | 't' :: s => some ('\t', s)
  | _ => none

theorem readUnit_length {s r : List Char} {n : Nat} (h : readUnit s = some (n, r)) :
    r.length < s.length := by
  unfold readUnit at h
  split at h
  · simp only [Option.bind_eq_bind, Option.bind_eq_some_iff, Option.pure_def,
      Option.some.injEq, Prod.mk.injEq] at h
    obtain ⟨_, _, _, _, _, _, _, _, _, rfl⟩ := h
    simp
    omega
  · simp at h

theorem readCodePoint_length {s r : List Char} {c : Char} (h : readCodePoint s = some (c, r)) :
    r.length < s.length := by
  unfold readCodePoint at h
  simp only [Option.bind_eq_bind, Option.bind_eq_some_iff] at h
  obtain ⟨⟨unit, t⟩, first, h⟩ := h
  have shorter := readUnit_length first
  simp only at h
  split at h
  · simp at h
  · split at h
    · split at h
      · rename_i u
        simp only [Option.bind_eq_some_iff] at h
        obtain ⟨⟨second, v⟩, next, h⟩ := h
        have := readUnit_length next
        simp only at h
        split at h
        · simp only [Option.pure_def, Option.some.injEq, Prod.mk.injEq] at h
          obtain ⟨_, rfl⟩ := h
          simp only [List.length_cons] at shorter
          omega
        · simp at h
      · simp at h
    · simp only [Option.pure_def, Option.some.injEq, Prod.mk.injEq] at h
      exact h.2 ▸ shorter

theorem readEscape_length {s r : List Char} {c : Char} (h : readEscape s = some (c, r)) :
    r.length < s.length := by
  unfold readEscape at h
  split at h
  · have := readCodePoint_length h
    simp only [List.length_cons]
    omega
  all_goals simp at h
  all_goals simp [h.2]

/-- Reads the rest of a string, after its opening quote. -/
def readString (s : List Char) : Option (List Char × List Char) :=
  match s with
  | [] => none
  | '"' :: s => some ([], s)
  | '\\' :: s =>
    match _h : readEscape s with
    | none => none
    | some (c, rest) => do
      let (cs, rest) ← readString rest
      pure (c :: cs, rest)
  | c :: s =>
    if c.toNat < 0x20 then none
    else do
      let (cs, rest) ← readString s
      pure (c :: cs, rest)
termination_by s.length
decreasing_by
  · have := readEscape_length ‹_›
    simp
    omega
  · simp

/-- Reading a string leaves a shorter text. -/
theorem readString_length {s r cs : List Char} (h : readString s = some (cs, r)) :
    r.length < s.length := by
  fun_induction readString s generalizing r cs with
  | case1 => simp at h
  | case2 s =>
    simp only [Option.some.injEq, Prod.mk.injEq] at h
    simp [h.2]
  | case3 => simp at h
  | case4 s c rest escape ih =>
    simp only [Option.bind_eq_bind, Option.bind_eq_some_iff, Option.pure_def, Option.some.injEq,
      Prod.mk.injEq] at h
    obtain ⟨⟨ds, u⟩, next, _, rfl⟩ := h
    have := ih next
    have := readEscape_length escape
    simp only [List.length_cons]
    omega
  | case5 => simp at h
  | case6 s c _ _ _ ih =>
    simp only [Option.bind_eq_bind, Option.bind_eq_some_iff, Option.pure_def, Option.some.injEq,
      Prod.mk.injEq] at h
    obtain ⟨⟨ds, u⟩, next, _, rfl⟩ := h
    have := ih next
    simp only [List.length_cons]
    omega

/-! ## Numerals -/

/-- Whether a character is an ASCII digit. -/
def isDigit (c : Char) : Bool :=
  '0' ≤ c && c ≤ '9'

/-- Reads the digits that a text starts with. -/
def readDigits (s : List Char) : List Nat × List Char :=
  ((s.takeWhile isDigit).map fun c => c.toNat - '0'.toNat, s.dropWhile isDigit)

/-- Reads digits of which there is at least one. -/
def readSomeDigits (s : List Char) : Option (List Nat × List Char) :=
  let (ds, rest) := readDigits s
  if ds.isEmpty then none else some (ds, rest)

/-- Reads the digits before the point: a zero stands alone. -/
def readWhole (s : List Char) : Option (List Nat × List Char) := do
  let (ds, rest) ← readSomeDigits s
  if ds.head? = some 0 ∧ ds.length ≠ 1 then none else pure (ds, rest)

/-- Reads the point and the digits after it, if there is a point. -/
def readFraction : List Char → Option (Option (List Nat) × List Char)
  | '.' :: s => do
    let (ds, rest) ← readSomeDigits s
    pure (some ds, rest)
  | s => some (none, s)

/-- Reads the exponent, if there is one. -/
def readPower : List Char → Option (Option (Bool × List Nat) × List Char)
  | c :: s =>
    if c = 'e' ∨ c = 'E' then do
      let (negative, s) :=
        match s with
        | '-' :: s => (true, s)
        | '+' :: s => (false, s)
        | s => (false, s)
      let (ds, rest) ← readSomeDigits s
      pure (some (negative, ds), rest)
    else some (none, c :: s)
  | [] => some (none, [])

/-- Reads a minus sign, if there is one. -/
def readMinus : List Char → Bool × List Char
  | '-' :: s => (true, s)
  | s => (false, s)

/-- Reads a numeral. -/
def readNumeral (s : List Char) : Option (Numeral × List Char) := do
  let (negative, s) := readMinus s
  let (whole, s) ← readWhole s
  let (fraction, s) ← readFraction s
  let (power, s) ← readPower s
  pure ({ negative, whole, fraction, power }, s)

theorem readSomeDigits_length {s r : List Char} {ds : List Nat}
    (h : readSomeDigits s = some (ds, r)) : r.length < s.length := by
  unfold readSomeDigits at h
  by_cases empty : (readDigits s).1.isEmpty = true
  · simp [empty] at h
  · simp only [empty, Bool.false_eq_true, if_false, Option.some.injEq, Prod.mk.injEq] at h
    have whole := congrArg List.length (List.takeWhile_append_dropWhile (p := isDigit) (l := s))
    have taken : 0 < (s.takeWhile isDigit).length := by
      rw [List.length_pos_iff]
      simpa [readDigits] using empty
    rw [List.length_append] at whole
    rw [← h.2, readDigits]
    simp only
    omega

theorem readWhole_length {s r : List Char} {ds : List Nat} (h : readWhole s = some (ds, r)) :
    r.length < s.length := by
  simp only [readWhole, Option.bind_eq_bind, Option.bind_eq_some_iff] at h
  obtain ⟨⟨es, t⟩, digits, h⟩ := h
  simp only at h
  split at h
  · simp at h
  · simp only [Option.pure_def, Option.some.injEq, Prod.mk.injEq] at h
    exact h.2 ▸ readSomeDigits_length digits

theorem readFraction_length {s r : List Char} {ds : Option (List Nat)}
    (h : readFraction s = some (ds, r)) : r.length ≤ s.length := by
  unfold readFraction at h
  split at h
  · simp only [Option.bind_eq_bind, Option.bind_eq_some_iff, Option.pure_def, Option.some.injEq,
      Prod.mk.injEq] at h
    obtain ⟨⟨es, t⟩, digits, _, rfl⟩ := h
    have := readSomeDigits_length digits
    simp only [List.length_cons]
    omega
  · simp only [Option.some.injEq, Prod.mk.injEq] at h
    simp [h.2]

theorem readPower_length {s r : List Char} {p : Option (Bool × List Nat)}
    (h : readPower s = some (p, r)) : r.length ≤ s.length := by
  unfold readPower at h
  split at h
  · split at h
    · simp only [Option.bind_eq_bind, Option.bind_eq_some_iff, Option.pure_def,
        Option.some.injEq, Prod.mk.injEq] at h
      obtain ⟨⟨es, t⟩, digits, _, rfl⟩ := h
      have := readSomeDigits_length digits
      split at this <;> simp only [List.length_cons] at this ⊢ <;> omega
    · simp only [Option.some.injEq, Prod.mk.injEq] at h
      simp [← h.2]
  · simp only [Option.some.injEq, Prod.mk.injEq] at h
    simp [← h.2]

/-- Reading a numeral leaves a shorter text. -/
theorem readNumeral_length {s r : List Char} {n : Numeral} (h : readNumeral s = some (n, r)) :
    r.length < s.length := by
  simp only [readNumeral, Option.bind_eq_bind, Option.bind_eq_some_iff, Option.pure_def,
    Option.some.injEq, Prod.mk.injEq] at h
  obtain ⟨⟨ds, t⟩, whole, ⟨fs, u⟩, fraction, ⟨ps, v⟩, power, _, rfl⟩ := h
  have := readWhole_length whole
  have := readFraction_length fraction
  have := readPower_length power
  have : (readMinus s).2.length ≤ s.length := by
    unfold readMinus
    split <;> simp
  simp only at *
  omega

/-! ## Texts -/

/-- Whether a character may stand between tokens. -/
def isSpace (c : Char) : Bool :=
  c == ' ' || c == '\n' || c == '\t' || c == '\r'

/-- The token that is a single character. -/
def punctuation? : Char → Option Token
  | '[' => some .openArray
  | ']' => some .closeArray
  | '{' => some .openObject
  | '}' => some .closeObject
  | ',' => some .comma
  | ':' => some .colon
  | _ => none

/-- The scalars that are written as words. -/
def words : List (List Char × Json) :=
  [("null".toList, .null), ("true".toList, .bool true), ("false".toList, .bool false)]

/-- Reads one token at the start of a text. -/
def readToken (s : List Char) : Option (Token × List Char) :=
  match s with
  | [] => none
  | c :: rest =>
    match punctuation? c with
    | some token => some (token, rest)
    | none =>
      if c = '"' then (readString rest).map fun r => (.scalar (.text (String.ofList r.1)), r.2)
      else if c = '-' ∨ isDigit c then do
        let (numeral, rest) ← readNumeral s
        let value ← numeral.value?
        pure (.scalar value, rest)
      else
        words.findSome? fun w =>
          if w.1.isPrefixOf s then some (.scalar w.2, rest.drop (w.1.length - 1)) else none

theorem readToken_length {s r : List Char} {t : Token} (h : readToken s = some (t, r)) :
    r.length < s.length := by
  unfold readToken at h
  split at h
  · simp at h
  · rename_i c rest
    split at h
    · simp only [Option.some.injEq, Prod.mk.injEq] at h
      simp [h.2]
    · split at h
      · simp only [Option.map_eq_some_iff, Prod.mk.injEq] at h
        obtain ⟨⟨cs, u⟩, read, _, rfl⟩ := h
        have := readString_length read
        simp only [List.length_cons]
        omega
      · split at h
        · simp only [Option.bind_eq_bind, Option.bind_eq_some_iff, Option.pure_def,
            Option.some.injEq, Prod.mk.injEq] at h
          obtain ⟨⟨n, u⟩, read, _, _, _, rfl⟩ := h
          exact readNumeral_length read
        · obtain ⟨w, _, h⟩ := List.exists_of_findSome?_eq_some h
          split at h
          · simp only [Option.some.injEq, Prod.mk.injEq] at h
            rw [← h.2, List.length_drop, List.length_cons]
            omega
          · simp at h

/-- The tokens of a text, or nothing if some part of it is no token. -/
def tokens (s : List Char) : Option (List Token) :=
  match s with
  | [] => some []
  | c :: rest =>
    if isSpace c then tokens rest
    else
      match _h : readToken (c :: rest) with
      | none => none
      | some (token, after) => (tokens after).map (token :: ·)
termination_by s.length
decreasing_by
  · simp
  · exact readToken_length ‹_›

end StyleObjects.Json
