import Mathlib.Data.List.Find
import StyleObjects.Proofs.CommentTags
import StyleObjects.Proofs.TagLayout

/-!
# Layouts of a comment

The words of a comment may be laid out over lines in any way: with blanks of any kind between them,
with any line breaks, and on each line with blanks and one star in front.  None of this is seen by
the reader, which finds the same words in the same order.  Written on one line with single spaces,
what was read is read again.

Main results:

- `BodyLayout.words_text`: the words of a layout are read from its text.
- `BodyLayout.parse_text`: the tags that are read are those among the words.
- `parse_layout`: the same together with look-ups by name, and for what was read before.
-/

namespace StyleObjects

/-! ## Words and blanks -/

namespace Text

variable {s t : List Char}

/-- A text of blanks has no words. -/
theorem words_eq_nil (h : ∀ c ∈ s, isBlank c = true) : words s = [] := by
  induction s with
  | nil => rfl
  | cons c s ih =>
    rw [words_cons_blank (h c List.mem_cons_self), ih fun d hd => h d (List.mem_cons_of_mem _ hd)]

/-- Blanks in front of a text hold no words. -/
theorem words_blanks_append (h : ∀ c ∈ s, isBlank c = true) : words (s ++ t) = words t := by
  induction s with
  | nil => rfl
  | cons c s ih =>
    rw [List.cons_append, words_cons_blank (h c List.mem_cons_self),
      ih fun d hd => h d (List.mem_cons_of_mem _ hd)]

/-- Blanks behind a text hold no words. -/
theorem words_append_blanks (h : ∀ c ∈ s, isBlank c = true) : words (t ++ s) = words t := by
  cases s with
  | nil => rw [List.append_nil]
  | cons c s =>
    rw [words_append_blank (h c List.mem_cons_self),
      words_eq_nil fun d hd => h d (List.mem_cons_of_mem _ hd), List.append_nil]

/-- Blanks in front are trimmed away. -/
theorem trimStart_blanks_append (h : ∀ c ∈ s, isBlank c = true) :
    trimStart (s ++ t) = trimStart t :=
  List.dropWhile_append_of_pos h

theorem trimStart_cons {c : Char} (h : isBlank c = false) : trimStart (c :: s) = c :: s :=
  List.dropWhile_cons_of_neg (by simp [h])

/-- Trimming a text does not change its words. -/
theorem words_trimStart (s : List Char) : words (trimStart s) = words s := by
  have hblanks : ∀ c ∈ s.takeWhile isBlank, isBlank c = true :=
    fun c hc => List.mem_takeWhile_imp hc
  calc words (trimStart s) = words (s.takeWhile isBlank ++ trimStart s) :=
        (words_blanks_append hblanks).symm
    _ = words s := by rw [trimStart, List.takeWhile_append_dropWhile]

/-- The words of texts that are joined by single spaces are the words of each. -/
theorem words_intercalate_eq (parts : List (List Char)) :
    words ([' '].intercalate parts) = parts.flatMap words := by
  induction parts with
  | nil => rfl
  | cons part parts ih =>
    cases parts with
    | nil => simp
    | cons next parts =>
      rw [List.intercalate_cons_cons, List.append_assoc, List.singleton_append,
        words_append_blank rfl, ih]
      rfl

/-- What stands in texts joined by spaces is a space or stands in one of them. -/
theorem mem_intercalate_space {c : Char} {parts : List (List Char)}
    (h : c ∈ [' '].intercalate parts) : c = ' ' ∨ ∃ part ∈ parts, c ∈ part := by
  induction parts with
  | nil => cases h
  | cons part parts ih =>
    cases parts with
    | nil => exact .inr ⟨part, List.mem_cons_self, by simpa using h⟩
    | cons next parts =>
      rw [List.intercalate_cons_cons, List.mem_append, List.mem_append, List.mem_singleton] at h
      rcases h with (h | h) | h
      · exact .inr ⟨part, List.mem_cons_self, h⟩
      · exact .inl h
      · exact (ih h).imp_right fun ⟨p, hp, hc⟩ => ⟨p, List.mem_cons_of_mem _ hp, hc⟩

end Text

namespace DocComment

/-! ## Lines -/

/-- The margin of a line ends with its star. -/
theorem dropMargin_star {s rest : List Char} (h : Text.trimStart s = '*' :: rest) :
    dropMargin s = rest := by
  rw [dropMargin, h]
  rfl

/-- A line without a star has blanks for a margin. -/
theorem dropMargin_of_ne {s : List Char} (h : (Text.trimStart s).head? ≠ some '*') :
    dropMargin s = Text.trimStart s := by
  unfold dropMargin
  split
  · rename_i hstar
    rw [hstar] at h
    exact absurd rfl h
  · rfl

/-- A blank at the end of a line makes no difference to its words. -/
theorem words_dropMargin_append_blank {c : Char} (h : Text.isBlank c = true) (s : List Char) :
    Text.words (dropMargin (s ++ [c])) = Text.words (dropMargin s) := by
  have hlast : ∀ d ∈ [c], Text.isBlank d = true := by simp [h]
  cases hs : Text.trimStart s with
  | nil =>
    have hsc : Text.trimStart (s ++ [c]) = [] := by
      rw [Text.trimStart, List.dropWhile_append, ← Text.trimStart, hs]
      simp [h]
    have hne : (Text.trimStart s).head? ≠ some '*' := by simp [hs]
    have hne' : (Text.trimStart (s ++ [c])).head? ≠ some '*' := by simp [hsc]
    rw [dropMargin_of_ne hne, dropMargin_of_ne hne', hs, hsc]
  | cons d rest =>
    have hsc : Text.trimStart (s ++ [c]) = d :: (rest ++ [c]) := by
      rw [Text.trimStart, List.dropWhile_append, ← Text.trimStart, hs]
      simp
    by_cases hstar : d = '*'
    · subst hstar
      rw [dropMargin_star hs, dropMargin_star hsc, Text.words_append_blanks hlast]
    · have hne : (Text.trimStart s).head? ≠ some '*' := by simp [hs, hstar]
      have hne' : (Text.trimStart (s ++ [c])).head? ≠ some '*' := by simp [hsc, hstar]
      rw [dropMargin_of_ne hne, dropMargin_of_ne hne', hs, hsc, ← List.cons_append,
        Text.words_append_blanks hlast]

/-- A carriage return at the end of a line does not change its words. -/
theorem words_dropMargin_dropReturn (line : List Char) :
    Text.words (dropMargin (Text.dropReturn line)) = Text.words (dropMargin line) := by
  unfold Text.dropReturn
  split
  · rename_i hlast
    obtain ⟨start, rfl⟩ := List.getLast?_eq_some_iff.1 hlast
    rw [List.dropLast_concat, words_dropMargin_append_blank (c := '\r') rfl]
  · rfl

/-- The words of a body up to a line feed are those of its first line, whether or not the line ends
with a carriage return. -/
theorem words_append_feed {line : List Char} (hfeed : '\n' ∉ line) (s : List Char) :
    words (line ++ '\n' :: s) = Text.words (dropMargin line) ++ words s := by
  rw [words, Text.lines_append_break hfeed, List.flatMap_cons, words_dropMargin_dropReturn]
  rfl

/-- The words of a body without line feeds are those of its only line. -/
theorem words_of_noFeed {line : List Char} (hfeed : '\n' ∉ line) :
    words line = Text.words (dropMargin line) := by
  cases line with
  | nil => rfl
  | cons c line => exact words_eq_words_line hfeed (List.cons_ne_nil c line)

/-- Whether a text is white space inside of a line. -/
def IsBlankText (s : List Char) : Prop :=
  ∀ c ∈ s, Text.isBlank c = true ∧ c ≠ '\n'

instance (s : List Char) : Decidable (IsBlankText s) :=
  List.decidableBAll _ s

theorem IsBlankText.isBlank {s : List Char} (h : IsBlankText s) : ∀ c ∈ s, Text.isBlank c = true :=
  fun c hc => (h c hc).1

theorem IsBlankText.noFeed {s : List Char} (h : IsBlankText s) : '\n' ∉ s :=
  fun hfeed => (h _ hfeed).2 rfl

/-- A word does not go on across a line. -/
theorem noFeed_of_isWord {w : List Char} (h : Text.IsWord w) : '\n' ∉ w := by
  intro hfeed
  have hblank := h.2 _ hfeed
  revert hblank
  decide

/-- A word with the white space in front of it. -/
structure SpacedWord where
  gap : List Char
  word : List Char

/-- The text of a word with the white space in front of it. -/
def SpacedWord.text (w : SpacedWord) : List Char :=
  w.gap ++ w.word

/-- A line in the body of a comment. -/
structure BodyLine where
  indent : List Char
  /-- Whether a star stands between the indent and the words. -/
  margin : Bool
  words : List SpacedWord
  trailing : List Char

namespace BodyLine

/-- The line as it is written. -/
def text (l : BodyLine) : List Char :=
  l.indent ++ (if l.margin then ['*'] else []) ++ (l.words.flatMap SpacedWord.text ++ l.trailing)

/-- Whether a line is made of words and of white space. -/
structure Valid (l : BodyLine) : Prop where
  indent : IsBlankText l.indent
  trailing : IsBlankText l.trailing
  gap : ∀ w ∈ l.words, IsBlankText w.gap
  isWord : ∀ w ∈ l.words, Text.IsWord w.word
  /-- White space stands between any two words. -/
  separated : ∀ w ∈ l.words.tail, w.gap ≠ []
  /-- Without a margin, a star at the start of the first word would be read as one. -/
  star : l.margin = false → ∀ w ∈ l.words.head?, w.word.head? ≠ some '*'

instance (l : BodyLine) : Decidable l.Valid :=
  decidable_of_iff (IsBlankText l.indent ∧ IsBlankText l.trailing ∧
      (∀ w ∈ l.words, IsBlankText w.gap) ∧ (∀ w ∈ l.words, Text.IsWord w.word) ∧
      (∀ w ∈ l.words.tail, w.gap ≠ []) ∧
      (l.margin = false → ∀ w ∈ l.words.head?, w.word.head? ≠ some '*'))
    ⟨fun ⟨hindent, htrailing, hgap, hword, hseparated, hstar⟩ =>
        ⟨hindent, htrailing, hgap, hword, hseparated, hstar⟩,
      fun h => ⟨h.indent, h.trailing, h.gap, h.isWord, h.separated, h.star⟩⟩

variable {l : BodyLine}

/-- A line of a body is a line. -/
theorem Valid.noFeed (h : l.Valid) : '\n' ∉ l.text := by
  have hwords : '\n' ∉ l.words.flatMap SpacedWord.text := by
    intro hfeed
    obtain ⟨w, hw, hfeed⟩ := List.mem_flatMap.1 hfeed
    rcases List.mem_append.1 hfeed with hfeed | hfeed
    · exact (h.gap w hw).noFeed hfeed
    · exact noFeed_of_isWord (h.isWord w hw) hfeed
  have hmargin : '\n' ∉ (if l.margin then ['*'] else []) := by
    split <;> decide
  simp only [text, List.mem_append, not_or]
  exact ⟨⟨h.indent.noFeed, hmargin⟩, hwords, h.trailing.noFeed⟩

/-- Words that are separated from what stands in front are read behind it. -/
theorem words_append_spacedWords {ws : List SpacedWord} {trailing : List Char}
    (hgap : ∀ w ∈ ws, IsBlankText w.gap ∧ w.gap ≠ []) (hword : ∀ w ∈ ws, Text.IsWord w.word)
    (htrailing : IsBlankText trailing) (front : List Char) :
    Text.words (front ++ (ws.flatMap SpacedWord.text ++ trailing)) =
      Text.words front ++ ws.map (·.word) := by
  induction ws generalizing front with
  | nil => simp [Text.words_append_blanks htrailing.isBlank]
  | cons w ws ih =>
    obtain ⟨hblank, hne⟩ := hgap w List.mem_cons_self
    obtain ⟨c, gap, hsplit⟩ := List.exists_cons_of_ne_nil hne
    rw [hsplit] at hblank
    have hrest := ih (fun v hv => hgap v (List.mem_cons_of_mem _ hv))
      (fun v hv => hword v (List.mem_cons_of_mem _ hv)) w.word
    have htext : front ++ ((w :: ws).flatMap SpacedWord.text ++ trailing) =
        front ++ c :: (gap ++ (w.word ++ (ws.flatMap SpacedWord.text ++ trailing))) := by
      simp [SpacedWord.text, hsplit]
    have hblanks : ∀ d ∈ gap, Text.isBlank d = true :=
      fun d hd => hblank.isBlank d (List.mem_cons_of_mem _ hd)
    rw [htext, Text.words_append_blank (hblank.isBlank c List.mem_cons_self),
      Text.words_blanks_append hblanks, hrest,
      Text.words_eq_singleton (hword w List.mem_cons_self)]
    rfl

/-- The words behind the margin of a line. -/
theorem Valid.words_spacedWords (h : l.Valid) :
    Text.words (l.words.flatMap SpacedWord.text ++ l.trailing) = l.words.map (·.word) := by
  cases hwords : l.words with
  | nil => simpa using Text.words_eq_nil h.trailing.isBlank
  | cons w ws =>
    have hmem {v : SpacedWord} (hv : v ∈ ws) : v ∈ l.words := by
      rw [hwords]
      exact List.mem_cons_of_mem _ hv
    have hfirst : w ∈ l.words := by
      rw [hwords]
      exact List.mem_cons_self
    have hgap : ∀ v ∈ ws, IsBlankText v.gap ∧ v.gap ≠ [] := by
      intro v hv
      refine ⟨h.gap v (hmem hv), h.separated v ?_⟩
      rwa [hwords]
    have hrest := words_append_spacedWords hgap (fun v hv => h.isWord v (hmem hv)) h.trailing w.word
    have htext : (w :: ws).flatMap SpacedWord.text ++ l.trailing =
        w.gap ++ (w.word ++ (ws.flatMap SpacedWord.text ++ l.trailing)) := by
      simp [SpacedWord.text]
    rw [htext, Text.words_blanks_append (h.gap w hfirst).isBlank, hrest,
      Text.words_eq_singleton (h.isWord w hfirst)]
    rfl

/-- Without a margin, no line starts with a star behind its indent. -/
theorem Valid.head?_trimStart_ne (h : l.Valid) (hmargin : l.margin = false) :
    (Text.trimStart (l.words.flatMap SpacedWord.text ++ l.trailing)).head? ≠ some '*' := by
  have hstar := h.star hmargin
  cases hwords : l.words with
  | nil =>
    have hnil : Text.trimStart l.trailing = [] :=
      List.dropWhile_eq_nil_iff.2 h.trailing.isBlank
    simp [hnil]
  | cons w ws =>
    have hfirst : w ∈ l.words := by
      rw [hwords]
      exact List.mem_cons_self
    obtain ⟨hne, hdark⟩ := h.isWord w hfirst
    obtain ⟨c, rest, hsplit⟩ := List.exists_cons_of_ne_nil hne
    have hc : Text.isBlank c = false := hdark c (by rw [hsplit]; exact List.mem_cons_self)
    have htext : (w :: ws).flatMap SpacedWord.text ++ l.trailing =
        w.gap ++ c :: (rest ++ (ws.flatMap SpacedWord.text ++ l.trailing)) := by
      simp [SpacedWord.text, hsplit]
    have hfirstStar := hstar w (by rw [hwords]; rfl)
    rw [hsplit] at hfirstStar
    rw [htext, Text.trimStart_blanks_append (h.gap w hfirst).isBlank, Text.trimStart_cons hc]
    exact hfirstStar

/-- The words of a line are read from its text. -/
theorem words_text (h : l.Valid) :
    Text.words (dropMargin l.text) = l.words.map (·.word) := by
  cases hmargin : l.margin with
  | true =>
    have hstar : Text.trimStart l.text =
        '*' :: (l.words.flatMap SpacedWord.text ++ l.trailing) := by
      rw [text, hmargin, if_pos rfl, List.append_assoc,
        Text.trimStart_blanks_append h.indent.isBlank]
      exact Text.trimStart_cons rfl
    rw [dropMargin_star hstar, h.words_spacedWords]
  | false =>
    have htrim : Text.trimStart l.text =
        Text.trimStart (l.words.flatMap SpacedWord.text ++ l.trailing) := by
      rw [text, hmargin, if_neg Bool.false_ne_true, List.append_nil,
        Text.trimStart_blanks_append h.indent.isBlank]
    have hne := h.head?_trimStart_ne hmargin
    rw [← htrim] at hne
    rw [dropMargin_of_ne hne, htrim, Text.words_trimStart, h.words_spacedWords]

end BodyLine

/-! ## Lines of a body -/

/-- How a line ends. -/
inductive LineBreak where
  | feed
  /-- A line feed with a carriage return in front. -/
  | returnFeed
deriving DecidableEq, Repr

/-- The characters of a line break. -/
def LineBreak.text : LineBreak → List Char
  | feed => ['\n']
  | returnFeed => ['\r', '\n']

/-- The lines in the body of a comment: some with a line break behind them, and a last one. -/
structure BodyLayout where
  lines : List (BodyLine × LineBreak)
  last : BodyLine

namespace BodyLayout

/-- The body as it is written. -/
def text (b : BodyLayout) : List Char :=
  (b.lines.flatMap fun l => l.1.text ++ l.2.text) ++ b.last.text

/-- The words of all lines, in order. -/
def words (b : BodyLayout) : List (List Char) :=
  (b.lines.flatMap fun l => l.1.words.map (·.word)) ++ b.last.words.map (·.word)

/-- Whether all lines are made of words and of white space. -/
def Valid (b : BodyLayout) : Prop :=
  (∀ l ∈ b.lines, l.1.Valid) ∧ b.last.Valid

instance (b : BodyLayout) : Decidable b.Valid :=
  inferInstanceAs (Decidable ((∀ l ∈ b.lines, _) ∧ _))

/-- The words of a layout are read from its text. -/
theorem words_text {b : BodyLayout} (h : b.Valid) : DocComment.words b.text = b.words := by
  obtain ⟨lines, last⟩ := b
  obtain ⟨hlines, hlast⟩ := h
  induction lines with
  | nil =>
    have hline : DocComment.words last.text = last.words.map (·.word) := by
      rw [words_of_noFeed hlast.noFeed, BodyLine.words_text hlast]
    exact hline
  | cons l lines ih =>
    obtain ⟨hl, hrest⟩ := List.forall_mem_cons.1 hlines
    have htail := ih hrest hlast
    -- A carriage return belongs to the line that it ends.
    have hline (s : List Char) : DocComment.words (l.1.text ++ l.2.text ++ s) =
        l.1.words.map (·.word) ++ DocComment.words s := by
      cases l.2 with
      | feed =>
        have hsplit : l.1.text ++ LineBreak.feed.text ++ s = l.1.text ++ '\n' :: s := by
          simp [LineBreak.text]
        rw [hsplit, words_append_feed hl.noFeed, BodyLine.words_text hl]
      | returnFeed =>
        have hsplit : l.1.text ++ LineBreak.returnFeed.text ++ s =
            l.1.text ++ ['\r'] ++ '\n' :: s := by
          simp [LineBreak.text]
        have hfeed : '\n' ∉ l.1.text ++ ['\r'] := by
          simp [hl.noFeed]
        rw [hsplit, words_append_feed hfeed, words_dropMargin_append_blank (c := '\r') rfl,
          BodyLine.words_text hl]
    have htext : text ⟨l :: lines, last⟩ = l.1.text ++ l.2.text ++ text ⟨lines, last⟩ := by
      simp [text]
    rw [htext, hline, htail]
    simp [words]

end BodyLayout

/-! ## Tags in a layout -/

/-- A tag, by its name without the at sign, with the words of its value. -/
structure NamedTag where
  name : List Char
  value : List (List Char)

namespace NamedTag

/-- The tag and the words of its value. -/
def words (t : NamedTag) : List (List Char) :=
  ('@' :: t.name) :: t.value

/-- The value as a text. -/
def valueText (t : NamedTag) : String :=
  String.ofList ([' '].intercalate t.value)

/-- Whether the name is that of a tag, and no word of the value opens a tag. -/
structure Valid (t : NamedTag) : Prop where
  ne_nil : t.name ≠ []
  isTagChar : ∀ c ∈ t.name, isTagChar c = true
  isWord : ∀ w ∈ t.value, Text.IsWord w
  notTag : ∀ w ∈ t.value, isTag w = false

instance (t : NamedTag) : Decidable t.Valid :=
  have : Decidable (∀ c ∈ t.name, DocComment.isTagChar c = true) := List.decidableBAll _ _
  decidable_of_iff (t.name ≠ [] ∧ (∀ c ∈ t.name, DocComment.isTagChar c = true) ∧
      (∀ w ∈ t.value, Text.IsWord w) ∧ ∀ w ∈ t.value, isTag w = false)
    ⟨fun ⟨hne, hname, hword, htag⟩ => ⟨hne, hname, hword, htag⟩,
      fun h => ⟨h.ne_nil, h.isTagChar, h.isWord, h.notTag⟩⟩

variable {t : NamedTag}

/-- A name behind an at sign opens a tag. -/
theorem Valid.isTag (h : t.Valid) : isTag ('@' :: t.name) = true := by
  have hname : (!t.name.isEmpty && t.name.all DocComment.isTagChar) = true := by
    simpa using ⟨h.ne_nil, h.isTagChar⟩
  exact hname

/-- The name of a tag does not start with an at sign, so nothing but the one in front is dropped. -/
theorem Valid.bareName (h : t.Valid) : bareName (String.ofList ('@' :: t.name)) = t.name := by
  rw [DocComment.bareName, String.toList_ofList, List.dropWhile_cons_of_pos rfl]
  cases hname : t.name with
  | nil => rfl
  | cons c name =>
    have hc := h.isTagChar c (by rw [hname]; exact List.mem_cons_self)
    have hne : c ≠ '@' := by
      rintro rfl
      revert hc
      decide
    exact List.dropWhile_cons_of_neg (by simpa using hne)

end NamedTag

/-- The tags that are read from a layout are those among its words; words in front of the first are
dropped. -/
theorem BodyLayout.parse_text {b : BodyLayout} {description : List (List Char)}
    {tags : List NamedTag} (h : b.Valid) (hwords : b.words = description ++ tags.flatMap (·.words))
    (hdescription : ∀ w ∈ description, isTag w = false) (htags : ∀ t ∈ tags, t.Valid) :
    parse b.text = ⟨tags.map fun t => (String.ofList ('@' :: t.name), t.valueText)⟩ := by
  have hread : tagsOf (DocComment.words b.text) = tags.map fun t => ('@' :: t.name, t.value) := by
    rw [b.words_text h, hwords, tagsOf_description hdescription]
    exact tagsOf_flatMap (fun t : NamedTag => '@' :: t.name) NamedTag.value
      (fun t ht => (htags t ht).isTag) fun t ht => (htags t ht).notTag
  rw [parse, hread, List.map_map]
  rfl

/-! ## What was read before -/

/-- The tags and values of a comment on one line, separated by single spaces. -/
def oneLine (c : DocComment) : List Char :=
  [' '].intercalate (c.tags.flatMap fun t => t.1.toList :: if t.2 = "" then [] else [t.2.toList])

/-- What tags are made of: a word that opens one, and words that open none. -/
theorem mem_tagsOf {ws : List (List Char)} {t : List Char × List (List Char)} (h : t ∈ tagsOf ws) :
    (t.1 ∈ ws ∧ isTag t.1 = true) ∧ ∀ v ∈ t.2, v ∈ ws ∧ isTag v = false := by
  induction ws with
  | nil => cases h
  | cons w ws ih =>
    rw [tagsOf_cons] at h
    have hlater (h : t ∈ tagsOf ws) : (t.1 ∈ w :: ws ∧ isTag t.1 = true) ∧
        ∀ v ∈ t.2, v ∈ w :: ws ∧ isTag v = false := by
      obtain ⟨⟨hmem, htag⟩, hvalue⟩ := ih h
      exact ⟨⟨List.mem_cons_of_mem _ hmem, htag⟩,
        fun v hv => ⟨List.mem_cons_of_mem _ (hvalue v hv).1, (hvalue v hv).2⟩⟩
    split at h
    · rename_i htag
      rcases List.mem_cons.1 h with rfl | h
      · refine ⟨⟨List.mem_cons_self, htag⟩, fun v hv => ?_⟩
        have hno := List.all_eq_true.1 List.all_takeWhile v hv
        exact ⟨List.mem_cons_of_mem _ ((List.takeWhile_subset _) hv), by simpa using hno⟩
      · exact hlater h
    · exact hlater h

variable {body : List Char}

/-- The tags of a body and their values are made of words. -/
theorem isWord_of_mem_tagsOf {t : List Char × List (List Char)} (h : t ∈ tagsOf (words body)) :
    Text.IsWord t.1 ∧ ∀ v ∈ t.2, Text.IsWord v :=
  ⟨isWord_of_mem_words (mem_tagsOf h).1.1,
    fun v hv => isWord_of_mem_words ((mem_tagsOf h).2 v hv).1⟩

/-- On one line stand the tags, each with the words of its value. -/
theorem oneLine_parse : oneLine (parse body) =
    [' '].intercalate ((tagsOf (words body)).flatMap fun t =>
      t.1 :: if [' '].intercalate t.2 = [] then [] else [[' '].intercalate t.2]) := by
  simp [oneLine, parse, List.flatMap_map]

/-- The line has the words of the tags and their values. -/
theorem words_oneLine_parse : Text.words (oneLine (parse body)) =
    (tagsOf (words body)).flatMap fun t => t.1 :: t.2 := by
  rw [oneLine_parse, Text.words_intercalate_eq, List.flatMap_assoc]
  apply List.flatMap_congr
  intro t ht
  obtain ⟨htag, hvalue⟩ := isWord_of_mem_tagsOf ht
  have hread := Text.words_intercalate hvalue
  split
  · rename_i hempty
    rw [hempty] at hread
    simp [Text.words_eq_singleton htag, ← hread, Text.words_eq_nil]
  · simp [Text.words_eq_singleton htag, hread]

theorem noFeed_oneLine_parse : '\n' ∉ oneLine (parse body) := by
  have hjoined {parts : List (List Char)} (h : ∀ part ∈ parts, '\n' ∉ part) :
      '\n' ∉ [' '].intercalate parts := by
    intro hfeed
    rcases Text.mem_intercalate_space hfeed with hspace | ⟨part, hpart, hfeed⟩
    · cases hspace
    · exact h part hpart hfeed
  rw [oneLine_parse]
  apply hjoined
  intro part hpart
  obtain ⟨t, ht, hpart⟩ := List.mem_flatMap.1 hpart
  obtain ⟨htag, hvalue⟩ := isWord_of_mem_tagsOf ht
  rcases List.mem_cons.1 hpart with rfl | hpart
  · exact noFeed_of_isWord htag
  · split at hpart
    · cases hpart
    · obtain rfl := List.mem_singleton.1 hpart
      exact hjoined fun v hv => noFeed_of_isWord (hvalue v hv)

/-- The line starts with a tag, if it is not empty, so that no star is taken for a margin. -/
theorem head?_oneLine_parse : ∀ c ∈ (oneLine (parse body)).head?, c = '@' := by
  rw [oneLine_parse]
  cases htags : tagsOf (words body) with
  | nil => simp
  | cons t ts =>
    obtain ⟨⟨_, htag⟩, _⟩ := mem_tagsOf (t := t) (by rw [htags]; exact List.mem_cons_self)
    obtain ⟨name, hname⟩ : ∃ name, t.1 = '@' :: name := by
      unfold isTag at htag
      split at htag
      · exact ⟨_, ‹_›⟩
      · cases htag
    intro c hc
    rw [List.flatMap_cons, List.cons_append, hname] at hc
    generalize (if [' '].intercalate t.2 = [] then [] else [[' '].intercalate t.2]) ++ _ = later at hc
    cases later with
    | nil => simpa using hc.symm
    | cons part later => simpa using hc.symm

/-- Written on one line, what was read is read again. -/
theorem parse_oneLine (body : List Char) : parse (oneLine (parse body)) = parse body := by
  have hmargin : (Text.trimStart (oneLine (parse body))).head? ≠ some '*' := by
    cases hline : oneLine (parse body) with
    | nil => simp [Text.trimStart]
    | cons c line =>
      obtain rfl := head?_oneLine_parse c (by rw [hline]; rfl)
      rw [Text.trimStart_cons rfl]
      simp
  have hwords : words (oneLine (parse body)) =
      (tagsOf (words body)).flatMap fun t => t.1 :: t.2 := by
    rw [words_of_noFeed noFeed_oneLine_parse, dropMargin_of_ne hmargin, Text.words_trimStart,
      words_oneLine_parse]
  have hread : tagsOf ((tagsOf (words body)).flatMap fun t => t.1 :: t.2) = tagsOf (words body) := by
    have htag : ∀ t ∈ tagsOf (words body), isTag t.1 = true := fun t ht => (mem_tagsOf ht).1.2
    have hvalue : ∀ t ∈ tagsOf (words body), ∀ v ∈ t.2, isTag v = false := fun t ht v hv =>
      ((mem_tagsOf ht).2 v hv).2
    simpa using tagsOf_flatMap Prod.fst Prod.snd htag hvalue
  rw [parse, hwords, hread]
  rfl

/-! ## Look-ups -/

/-- A name may be given with or without an at sign in front. -/
theorem bareName_of_mem {name query : List Char} (hname : name.head? ≠ some '@')
    (hquery : query ∈ [name, '@' :: name]) : bareName (String.ofList query) = name := by
  have hbare : name.dropWhile (· == '@') = name := by
    cases name with
    | nil => rfl
    | cons c name =>
      have hne : c ≠ '@' := fun h => hname (congrArg some h)
      exact List.dropWhile_cons_of_neg (by simpa using hne)
  rw [bareName, String.toList_ofList]
  rcases List.mem_cons.1 hquery with rfl | hquery
  · exact hbare
  · obtain rfl := List.mem_singleton.1 hquery
    rw [List.dropWhile_cons_of_pos rfl, hbare]

section Lookups

variable {tags : List NamedTag} {name : List Char} {query : String}

/-- A tag is found under its own name alone, with the at sign or without. -/
theorem NamedTag.Valid.sameTag_eq {t : NamedTag} (h : t.Valid)
    (hquery : DocComment.bareName query = name) :
    sameTag (String.ofList ('@' :: t.name)) query = decide (t.name = name) := by
  rw [sameTag, h.bareName, hquery, Bool.eq_iff_iff, beq_iff_eq, decide_eq_true_iff]

/-- The first tag with the whole name is found. -/
theorem value?_namedTags (htags : ∀ t ∈ tags, t.Valid) (hquery : bareName query = name) :
    value? ⟨tags.map fun t => (String.ofList ('@' :: t.name), t.valueText)⟩ query =
      (tags.find? (·.name = name)).map (·.valueText) := by
  have hfind : tags.find? ((fun t : String × String => sameTag t.1 query) ∘
      fun t => (String.ofList ('@' :: t.name), t.valueText)) = tags.find? (·.name = name) :=
    List.find?_congr fun t ht => (htags t ht).sameTag_eq hquery
  rw [value?, List.find?_map, hfind, Option.map_map]
  rfl

/-- A tag is found by its whole name. -/
theorem has_namedTags (htags : ∀ t ∈ tags, t.Valid) (hquery : bareName query = name) :
    has ⟨tags.map fun t => (String.ofList ('@' :: t.name), t.valueText)⟩ query =
      tags.any (·.name = name) := by
  rw [has, List.any_map, Bool.eq_iff_iff, List.any_eq_true, List.any_eq_true]
  refine exists_congr fun t => and_congr_right fun ht => ?_
  change sameTag (String.ofList ('@' :: t.name)) query = true ↔ _
  rw [(htags t ht).sameTag_eq hquery]

end Lookups

/-- However words are laid out over lines, the tags among them are read in order, each with the words
up to the next joined by single spaces, and a look-up finds the first tag with the whole name.
Conversely, what was read from any body is read again from its tags and values on one line. -/
theorem parse_layout :
    (∀ (description : List (List Char)) (tags : List NamedTag) (b : BodyLayout),
      (∀ w ∈ description, isTag w = false) → (∀ t ∈ tags, t.Valid) → b.Valid →
      b.words = description ++ tags.flatMap (·.words) →
      parse b.text = ⟨tags.map fun t => (String.ofList ('@' :: t.name), t.valueText)⟩ ∧
      ∀ name : List Char, name.head? ≠ some '@' → ∀ query ∈ [name, '@' :: name],
        (parse b.text).value? (String.ofList query) =
            (tags.find? (·.name = name)).map (·.valueText) ∧
          (parse b.text).has (String.ofList query) = tags.any (·.name = name)) ∧
    ∀ body : List Char, parse (oneLine (parse body)) = parse body := by
  refine ⟨fun description tags b hdescription htags hb hwords => ?_, parse_oneLine⟩
  have hparse := b.parse_text hb hwords hdescription htags
  refine ⟨hparse, fun name hname query hquery => ?_⟩
  have hbare := bareName_of_mem hname hquery
  rw [hparse]
  exact ⟨value?_namedTags htags hbare, has_namedTags htags hbare⟩

/-- Tags of which two have the same name. -/
def sampleTags : List NamedTag :=
  [⟨['c', 'l', 'a', 's', 's'], [['.', 'a'], ['>'], ['*', 'b']]⟩, ⟨['m', 'a', 'p'], []⟩,
    ⟨['c', 'l', 'a', 's', 's'], [['x', '@', 'y']]⟩]

/-- A description and the tags on lines of all kinds. -/
def sampleLayout : BodyLayout where
  lines := [
    (⟨[' '], false, [⟨[], ['C', 'a', 'r', 'd', '.']⟩], ['\u00A0']⟩, .returnFeed),
    (⟨['\t'], true, [⟨[], ['@', 'c', 'l', 'a', 's', 's']⟩, ⟨[' '], ['.', 'a']⟩], []⟩, .feed),
    (⟨[], true, [], []⟩, .feed)]
  last := ⟨[' '], true, [⟨[' '], ['>']⟩, ⟨['\u2003', ' '], ['*', 'b']⟩,
    ⟨[' '], ['@', 'm', 'a', 'p']⟩, ⟨['\r'], ['@', 'c', 'l', 'a', 's', 's']⟩,
    ⟨[' '], ['x', '@', 'y']⟩], [' ']⟩

theorem parse_layout_sample :
    sampleLayout.Valid ∧
      parse sampleLayout.text = ⟨[("@class", ".a > *b"), ("@map", ""), ("@class", "x@y")]⟩ ∧
      (parse sampleLayout.text).value? "class" = some ".a > *b" ∧
      (parse sampleLayout.text).has "@map" = true := by
  obtain ⟨hparse, hlookup⟩ := parse_layout.1 [['C', 'a', 'r', 'd', '.']] sampleTags sampleLayout
    (by decide +kernel) (by decide +kernel) (by decide +kernel) (by decide +kernel)
  exact ⟨by decide +kernel, hparse,
    (hlookup ['c', 'l', 'a', 's', 's'] (by decide) _ List.mem_cons_self).1,
    (hlookup ['m', 'a', 'p'] (by decide) ['@', 'm', 'a', 'p'] (by decide)).2⟩

end DocComment

end StyleObjects
