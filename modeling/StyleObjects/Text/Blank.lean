/-!
# White space

White space is the Unicode property `White_Space`.  Texts are read as lists of characters here: a
text is trimmed at its ends, split into words, and split into lines.

Main results:

- `mem_words`: a word is not empty and holds no blank character.
- `words_append_blank`: no word goes on across a blank.
- `words_spaced`: words that are written with blanks in front are read back.
- `lines_append_break`: a text up to a line feed is the first line.
-/

namespace StyleObjects.Text

/-- Whether a character has the property `White_Space`. -/
def isBlank (c : Char) : Bool :=
  let n := c.toNat
  (9 ≤ n && n ≤ 13) || n == 0x20 || n == 0x85 || n == 0xA0 || n == 0x1680 ||
    (0x2000 ≤ n && n ≤ 0x200A) || n == 0x2028 || n == 0x2029 || n == 0x202F || n == 0x205F ||
    n == 0x3000

/-! ## Trimming -/

/-- The text without the blanks it starts with. -/
def trimStart (s : List Char) : List Char :=
  s.dropWhile isBlank

/-- The text without the blanks it ends with. -/
def trimEnd (s : List Char) : List Char :=
  (s.reverse.dropWhile isBlank).reverse

/-- The text without the blanks at either end. -/
def trim (s : List Char) : List Char :=
  trimEnd (trimStart s)

/-! ## Words -/

/-- Puts a word in front of others unless it is empty. -/
def consWord (word : List Char) (others : List (List Char)) : List (List Char) :=
  if word.isEmpty then others else word :: others

/-- The word that a text starts with, possibly empty, and the words after it. -/
def wordsFrom : List Char → List Char × List (List Char)
  | [] => ([], [])
  | c :: s =>
    let (word, others) := wordsFrom s
    if isBlank c then ([], consWord word others) else (c :: word, others)

/-- The longest runs of characters that are not blank, in order. -/
def words (s : List Char) : List (List Char) :=
  let (word, others) := wordsFrom s
  consWord word others

/-- A word is put in front unless it is empty. -/
theorem mem_consWord {w word : List Char} {others : List (List Char)} :
    w ∈ consWord word others ↔ (w = word ∧ word ≠ []) ∨ w ∈ others := by
  unfold consWord
  cases word <;> simp

/-- The words of a text are not empty and hold no blanks. -/
theorem mem_wordsFrom (s : List Char) :
    (∀ c ∈ (wordsFrom s).1, isBlank c = false) ∧
      ∀ w ∈ (wordsFrom s).2, w ≠ [] ∧ ∀ c ∈ w, isBlank c = false := by
  induction s with
  | nil => simp [wordsFrom]
  | cons c s ih =>
    obtain ⟨first, others⟩ := ih
    simp only [wordsFrom]
    split
    · refine ⟨by simp, fun w hw => ?_⟩
      rcases mem_consWord.1 hw with ⟨rfl, hne⟩ | hw
      · exact ⟨hne, first⟩
      · exact others w hw
    · rename_i hc
      refine ⟨fun d hd => ?_, others⟩
      rcases List.mem_cons.1 hd with rfl | hd
      · simpa using hc
      · exact first d hd

/-- A word is not empty and holds no blank character. -/
theorem mem_words {s w : List Char} (h : w ∈ words s) :
    w ≠ [] ∧ ∀ c ∈ w, isBlank c = false := by
  rcases mem_consWord.1 h with ⟨rfl, hne⟩ | hw
  · exact ⟨hne, (mem_wordsFrom s).1⟩
  · exact (mem_wordsFrom s).2 w hw

theorem consWord_append (word : List Char) (others more : List (List Char)) :
    consWord word (others ++ more) = consWord word others ++ more := by
  unfold consWord
  split <;> rfl

/-- No word goes on across a blank. -/
theorem words_append_blank {c : Char} (h : isBlank c = true) (s t : List Char) :
    words (s ++ c :: t) = words s ++ words t := by
  have hfrom : wordsFrom (s ++ c :: t) = ((wordsFrom s).1, (wordsFrom s).2 ++ words t) := by
    induction s with
    | nil => simp [wordsFrom, h, words]
    | cons d s ih =>
      rw [List.cons_append, wordsFrom, ih, wordsFrom]
      by_cases hd : isBlank d = true
      · simp [hd, consWord_append]
      · simp [hd]
  have hwords (s : List Char) : words s = consWord (wordsFrom s).1 (wordsFrom s).2 := rfl
  rw [hwords (s ++ c :: t), hfrom, consWord_append, ← hwords s]

/-- A blank in front adds no word. -/
theorem words_cons_blank {c : Char} (h : isBlank c = true) (s : List Char) :
    words (c :: s) = words s :=
  words_append_blank h [] s

/-- Whether a text is a word: it is not empty and holds no blank character. -/
def IsWord (w : List Char) : Prop :=
  w ≠ [] ∧ ∀ c ∈ w, isBlank c = false

instance (w : List Char) : Decidable (IsWord w) :=
  @instDecidableAnd _ _ _ (List.decidableBAll _ w)

/-- A word is its own only word. -/
theorem words_eq_singleton {w : List Char} (h : IsWord w) : words w = [w] := by
  have hfrom : ∀ w : List Char, (∀ c ∈ w, isBlank c = false) → wordsFrom w = (w, []) := by
    intro w hw
    induction w with
    | nil => rfl
    | cons c w ih =>
      rw [wordsFrom, ih fun d hd => hw d (List.mem_cons_of_mem _ hd), hw c List.mem_cons_self]
      rfl
  have hne := h.1
  rw [words, hfrom w h.2]
  cases w with
  | nil => exact absurd rfl hne
  | cons c w => rfl

/-- Some words, each with a blank in front. -/
def spaced (ws : List (List Char)) : List Char :=
  ws.flatMap (' ' :: ·)

/-- Words that are written with blanks in front are read back. -/
theorem words_spaced {ws : List (List Char)} (h : ∀ w ∈ ws, IsWord w) : words (spaced ws) = ws := by
  have hspaced (w : List Char) (ws : List (List Char)) :
      spaced (w :: ws) = ' ' :: (w ++ spaced ws) := rfl
  induction ws with
  | nil => rfl
  | cons w ws ih =>
    have hw := words_eq_singleton (h w List.mem_cons_self)
    have hrest := ih fun v hv => h v (List.mem_cons_of_mem _ hv)
    rw [hspaced, words_cons_blank rfl]
    cases ws with
    | nil =>
      rw [spaced, List.flatMap_nil, List.append_nil, hw]
    | cons v ws =>
      rw [hspaced, words_cons_blank rfl] at hrest
      rw [hspaced, words_append_blank rfl, hw, hrest]
      rfl

/-! ## Lines -/

/-- The pieces of a text between its line feeds; a text without one is a single piece. -/
def pieces : List Char → List (List Char)
  | [] => [[]]
  | c :: s =>
    if c = '\n' then [] :: pieces s
    else match pieces s with
      | [] => [[c]]
      | piece :: others => (c :: piece) :: others

/-- The piece without a carriage return at its end. -/
def dropReturn (piece : List Char) : List Char :=
  if piece.getLast? = some '\r' then piece.dropLast else piece

/-- Ends every piece but the last at its line break; an empty last piece is no line. -/
def endLines : List (List Char) → List (List Char)
  | [] => []
  | [piece] => if piece.isEmpty then [] else [piece]
  | piece :: others => dropReturn piece :: endLines others

/-- The lines of a text.  A line ends with a line feed, which a carriage return may precede; text
after the last line feed is a line of its own. -/
def lines (s : List Char) : List (List Char) :=
  endLines (pieces s)

/-- A text up to a line feed is the first line. -/
theorem lines_append_break {line : List Char} (h : '\n' ∉ line) (s : List Char) :
    lines (line ++ '\n' :: s) = dropReturn line :: lines s := by
  have hne : ∀ s : List Char, pieces s ≠ [] := by
    intro s
    cases s with
    | nil => simp [pieces]
    | cons c s =>
      rw [pieces]
      split
      · simp
      · split <;> simp
  have hpieces : pieces (line ++ '\n' :: s) = line :: pieces s := by
    induction line with
    | nil => rfl
    | cons c line ih =>
      simp only [List.mem_cons, not_or] at h
      rw [List.cons_append, pieces, ih h.2, if_neg (Ne.symm h.1)]
  obtain ⟨piece, others, hrest⟩ := List.exists_cons_of_ne_nil (hne s)
  rw [lines, hpieces, lines, hrest]
  rfl

/-- A text without line feeds is a single line. -/
theorem lines_eq_singleton {line : List Char} (h : '\n' ∉ line) (hne : line ≠ []) :
    lines line = [line] := by
  have hpieces : ∀ line : List Char, '\n' ∉ line → pieces line = [line] := by
    intro line hline
    induction line with
    | nil => rfl
    | cons c line ih =>
      simp only [List.mem_cons, not_or] at hline
      rw [pieces, ih hline.2, if_neg (Ne.symm hline.1)]
  rw [lines, hpieces line h]
  cases line with
  | nil => exact absurd rfl hne
  | cons c line => rfl

/-- A line without carriage returns is left as it is. -/
theorem dropReturn_eq_self {line : List Char} (h : '\r' ∉ line) : dropReturn line = line := by
  rw [dropReturn, if_neg]
  exact fun hlast => h (List.mem_of_getLast? hlast)

end StyleObjects.Text
