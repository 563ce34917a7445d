import Mathlib.Data.List.DropRight
import StyleObjects.Extract
import StyleObjects.Proofs.CommentScan
import StyleObjects.Proofs.DeclarationPattern

/-!
# Comments made of tags

Tags with their values are written into a doc comment, on one line or each on a line of its own, and
read back from it.

Main results:

- `TagComment.value?_parse_body`, `TagComment.has_parse_body`: what is read is what was written.
- `TagComment.isBody_body`: a written comment ends where it should.
- `TagComment.text_mem_leadText`: it may stand in front of a declaration.
- `TagComment.not_declares_text`: it holds no declaration.
-/

namespace StyleObjects

open DocComment

/-! ## Tags and their values -/

/-- Whether tags of a kind have a value. -/
def TagKind.hasValue : TagKind → Bool
  | override => true
  | combinator => true
  | config => false
  | ignore => false
  | map => false
  | prepend => true

/-- Whether every kind has a tag of its own. -/
structure Tags.Distinguished (tags : Tags) : Prop where
  isTag : ∀ kind, isTag ('@' :: bareName (tags.get kind)) = true
  distinct : ∀ kind other, bareName (tags.get kind) = bareName (tags.get other) → kind = other

/-- A tag with the words of its value. -/
structure TagLine where
  kind : TagKind
  value : List (List Char)

/-- What a declaration starts with, without the blank in front of the name. -/
def declarationWords : List Char :=
  ['e', 'x', 'p', 'o', 'r', 't', ' ', 'c', 'o', 'n', 's', 't']

namespace TagLine

/-- The tag as it is written. -/
def tag (tags : Tags) (l : TagLine) : List Char :=
  '@' :: bareName (tags.get l.kind)

/-- The tag and the words of its value. -/
def words (tags : Tags) (l : TagLine) : List (List Char) :=
  l.tag tags :: l.value

/-- The tag and its value on a line with a margin. -/
def marginLine (tags : Tags) (l : TagLine) : List Char :=
  ' ' :: '*' :: Text.spaced (l.words tags)

/-- The value as a text. -/
def valueText (l : TagLine) : String :=
  String.ofList ([' '].intercalate l.value)

/-- Whether a tag has a value that can be written, if and only if it needs one. -/
structure Valid (tags : Tags) (l : TagLine) : Prop where
  isWord : ∀ w ∈ l.value, Text.IsWord w
  notTag : ∀ w ∈ l.value, isTag w = false
  hasValue : l.value ≠ [] ↔ l.kind.hasValue = true
  closed : ¬ ['*', '/'] <:+: Text.spaced l.value
  /-- The tag and its value do not look like a declaration. -/
  declares : ¬ declarationWords <:+: Text.spaced (l.words tags)

instance (tags : Tags) (l : TagLine) : Decidable (l.Valid tags) :=
  decidable_of_iff ((∀ w ∈ l.value, Text.IsWord w) ∧ (∀ w ∈ l.value, isTag w = false) ∧
      (l.value ≠ [] ↔ l.kind.hasValue = true) ∧ ¬ ['*', '/'] <:+: Text.spaced l.value ∧
      ¬ declarationWords <:+: Text.spaced (l.words tags))
    ⟨fun ⟨hword, htag, hvalue, hclosed, hdeclares⟩ => ⟨hword, htag, hvalue, hclosed, hdeclares⟩,
      fun h => ⟨h.isWord, h.notTag, h.hasValue, h.closed, h.declares⟩⟩

end TagLine

/-! ## Comments -/

/-- How a comment is laid out. -/
inductive Layout where
  | oneLine
  /-- Every tag has a line with a margin. -/
  | multiLine
deriving DecidableEq, Repr

/-- A comment that is made of tags. -/
structure TagComment where
  layout : Layout
  lines : List TagLine

namespace TagComment

/-- What stands between the marks of the comment. -/
def body (tags : Tags) (c : TagComment) : List Char :=
  match c.layout with
  | .oneLine => Text.spaced (c.lines.flatMap (·.words tags)) ++ [' ']
  | .multiLine => '\n' :: (c.lines.flatMap fun l => l.marginLine tags ++ ['\n']) ++ [' ']

/-- The comment as a text. -/
def text (tags : Tags) (c : TagComment) : List Char :=
  written (c.body tags)

/-- Whether all tags can be written. -/
def Valid (tags : Tags) (c : TagComment) : Prop :=
  ∀ l ∈ c.lines, l.Valid tags

instance (tags : Tags) (c : TagComment) : Decidable (c.Valid tags) :=
  inferInstanceAs (Decidable (∀ l ∈ c.lines, l.Valid tags))

/-- Whether the comment has a tag of some kind. -/
def hasKind (c : TagComment) (kind : TagKind) : Bool :=
  c.lines.any (·.kind = kind)

/-- The value of the first tag of a kind. -/
def valueOf (c : TagComment) (kind : TagKind) : Option String :=
  (c.lines.find? (·.kind = kind)).map (·.valueText)

end TagComment

/-! ## Reading words -/

namespace DocComment

/-- The words of a line stand in front of those of the other lines. -/
theorem words_append_break {line : List Char} (hfeed : '\n' ∉ line) (hreturn : '\r' ∉ line)
    (s : List Char) :
    words (line ++ '\n' :: s) = Text.words (dropMargin line) ++ words s := by
  rw [words, Text.lines_append_break hfeed, Text.dropReturn_eq_self hreturn]
  rfl

/-- A line on its own has its words without the margin. -/
theorem words_eq_words_line {line : List Char} (hfeed : '\n' ∉ line) (hne : line ≠ []) :
    words line = Text.words (dropMargin line) := by
  rw [words, Text.lines_eq_singleton hfeed hne]
  simp

/-- Tags are read one after the other, each with the words up to the next. -/
theorem tagsOf_flatMap {α : Type} (tag : α → List Char) (value : α → List (List Char))
    {items : List α} (htag : ∀ a ∈ items, isTag (tag a) = true)
    (hvalue : ∀ a ∈ items, ∀ w ∈ value a, isTag w = false) :
    tagsOf (items.flatMap fun a => tag a :: value a) = items.map fun a => (tag a, value a) := by
  have hwords (ws rest : List (List Char)) (hws : ∀ w ∈ ws, isTag w = false) :
      split (ws ++ rest) = (ws ++ (split rest).1, (split rest).2) := by
    induction ws with
    | nil => rfl
    | cons w ws ih =>
      rw [List.cons_append, split, ih fun v hv => hws v (List.mem_cons_of_mem _ hv),
        hws w List.mem_cons_self]
      rfl
  have hsplit : split (items.flatMap fun a => tag a :: value a) =
      ([], items.map fun a => (tag a, value a)) := by
    induction items with
    | nil => rfl
    | cons a items ih =>
      have hrest := ih (fun b hb => htag b (List.mem_cons_of_mem _ hb))
        fun b hb => hvalue b (List.mem_cons_of_mem _ hb)
      rw [List.flatMap_cons, List.cons_append, split,
        hwords _ _ (hvalue a List.mem_cons_self), hrest, htag a List.mem_cons_self]
      simp
  rw [tagsOf, hsplit]

end DocComment

/-! ## Characters of a comment -/

/-- A character in the name of a tag is a letter, a digit or one of two others. -/
theorem DocComment.isTagChar_iff {c : Char} :
    isTagChar c = true ↔ ((('A' ≤ c ∧ c ≤ 'Z') ∨ ('a' ≤ c ∧ c ≤ 'z')) ∨ ('0' ≤ c ∧ c ≤ '9')) ∨
      c = '_' ∨ c = '-' := by
  change (((decide ('A' ≤ c ∧ c ≤ 'Z') || (decide ('a' ≤ c) && decide (c ≤ 'z'))) ||
    (decide ('0' ≤ c) && decide (c ≤ '9')) || c == '_' || c == '-') = true) ↔ _
  simp only [Bool.or_eq_true, Bool.and_eq_true, decide_eq_true_eq, beq_iff_eq, or_assoc]

/-- The characters of tags are dashes, digits, ASCII letters and underscores. -/
theorem DocComment.toNat_of_isTagChar {c : Char} (h : isTagChar c = true) :
    c.toNat = 45 ∨ (48 ≤ c.toNat ∧ c.toNat ≤ 57) ∨ (65 ≤ c.toNat ∧ c.toNat ≤ 90) ∨ c.toNat = 95 ∨
      (97 ≤ c.toNat ∧ c.toNat ≤ 122) := by
  have hspan {a b : Char} (hspan : a ≤ c ∧ c ≤ b) : a.toNat ≤ c.toNat ∧ c.toNat ≤ b.toNat :=
    ⟨Char.le_def.1 hspan.1, Char.le_def.1 hspan.2⟩
  rcases isTagChar_iff.1 h with ((hupper | hlower) | hdigit) | rfl | rfl
  · have hcode : 65 ≤ c.toNat ∧ c.toNat ≤ 90 := hspan hupper
    omega
  · have hcode : 97 ≤ c.toNat ∧ c.toNat ≤ 122 := hspan hlower
    omega
  · have hcode : 48 ≤ c.toNat ∧ c.toNat ≤ 57 := hspan hdigit
    omega
  · decide
  · decide

/-- No character of a tag is blank. -/
theorem DocComment.isBlank_of_isTagChar {c : Char} (h : isTagChar c = true) :
    Text.isBlank c = false := by
  have hcode := toNat_of_isTagChar h
  simp only [Text.isBlank, Bool.or_eq_false_iff, Bool.and_eq_false_iff, decide_eq_false_iff_not,
    beq_eq_false_iff_ne]
  omega

namespace Tags.Distinguished

variable {tags : Tags}

/-- Without its at sign, a distinguished tag is a name. -/
theorem tagChar (h : tags.Distinguished) (kind : TagKind) :
    bareName (tags.get kind) ≠ [] ∧ ∀ c ∈ bareName (tags.get kind), isTagChar c = true := by
  have htag : (!(bareName (tags.get kind)).isEmpty &&
      (bareName (tags.get kind)).all isTagChar) = true := h.isTag kind
  simpa using htag

/-- A tag is a word. -/
theorem isWord_tag (h : tags.Distinguished) (l : TagLine) : Text.IsWord (l.tag tags) := by
  refine ⟨List.cons_ne_nil _ _, ?_⟩
  intro c hc
  rcases List.mem_cons.1 hc with rfl | hc
  · rfl
  · exact isBlank_of_isTagChar ((h.tagChar l.kind).2 c hc)

/-- The words of a valid tag line are words. -/
theorem isWord_words (h : tags.Distinguished) {l : TagLine} (hl : l.Valid tags) :
    ∀ w ∈ l.words tags, Text.IsWord w := by
  intro w hw
  rcases List.mem_cons.1 hw with rfl | hw
  · exact h.isWord_tag l
  · exact hl.isWord w hw

end Tags.Distinguished

/-- A blank character that is not in front of a word does not occur among words. -/
theorem Text.not_mem_spaced {ws : List (List Char)} (h : ∀ w ∈ ws, IsWord w) {c : Char}
    (hblank : isBlank c = true) (hc : c ≠ ' ') : c ∉ spaced ws := by
  intro hmem
  obtain ⟨w, hw, hmem⟩ := List.mem_flatMap.1 hmem
  rcases List.mem_cons.1 hmem with rfl | hmem
  · exact hc rfl
  · rw [(h w hw).2 c hmem] at hblank
    cases hblank

namespace TagComment

variable {tags : Tags} {c : TagComment}

/-- So are those of a valid comment. -/
theorem isWord_words (htags : tags.Distinguished) (hc : c.Valid tags) :
    ∀ w ∈ c.lines.flatMap (·.words tags), Text.IsWord w := by
  intro w hw
  obtain ⟨l, hl, hw⟩ := List.mem_flatMap.1 hw
  exact htags.isWord_words (hc l hl) w hw

/-! ## Reading a comment -/

/-- On one line, the words of a comment are its tags and their values. -/
theorem words_oneLine {lines : List TagLine}
    (h : ∀ w ∈ lines.flatMap (·.words tags), Text.IsWord w) :
    DocComment.words (Text.spaced (lines.flatMap (·.words tags)) ++ [' ']) =
      lines.flatMap (·.words tags) := by
  have hfeed : '\n' ∉ Text.spaced (lines.flatMap (·.words tags)) ++ [' '] := by
    simp [Text.not_mem_spaced h (c := '\n') rfl (by decide)]
  have hmargin : Text.words (dropMargin (Text.spaced (lines.flatMap (·.words tags)) ++ [' '])) =
      Text.words (Text.spaced (lines.flatMap (·.words tags)) ++ [' ']) := by
    cases lines with
    | nil => rfl
    | cons l lines => rfl
  rw [words_eq_words_line hfeed (by simp), hmargin, Text.words_append_blank rfl,
    Text.words_spaced h]
  exact List.append_nil _

/-- The words of a line with a margin are the tag and its value. -/
theorem words_marginLine {l : TagLine} (h : ∀ w ∈ l.words tags, Text.IsWord w) (rest : List Char) :
    DocComment.words (l.marginLine tags ++ '\n' :: rest) =
      l.words tags ++ DocComment.words rest := by
  have hmargin : dropMargin (l.marginLine tags) = Text.spaced (l.words tags) := rfl
  rw [words_append_break _ _, hmargin, Text.words_spaced h]
  · simp [TagLine.marginLine, Text.not_mem_spaced h (c := '\n') rfl (by decide)]
  · simp [TagLine.marginLine, Text.not_mem_spaced h (c := '\r') rfl (by decide)]

/-- With a line for every tag, the words of a comment are its tags and their values. -/
theorem words_multiLine {lines : List TagLine}
    (h : ∀ w ∈ lines.flatMap (·.words tags), Text.IsWord w) :
    DocComment.words ((lines.flatMap fun l => l.marginLine tags ++ ['\n']) ++ [' ']) =
      lines.flatMap (·.words tags) := by
  induction lines with
  | nil => rfl
  | cons l lines ih =>
    have hline : ∀ w ∈ l.words tags, Text.IsWord w :=
      fun w hw => h w (List.mem_append_left _ hw)
    have hrest := ih fun w hw => h w (List.mem_append_right _ hw)
    rw [List.flatMap_cons, List.append_assoc, List.append_assoc, List.singleton_append,
      words_marginLine hline, hrest]
    rfl

/-- The words of a comment are its tags and their values, however it is laid out. -/
theorem words_body (htags : tags.Distinguished) (hc : c.Valid tags) :
    DocComment.words (c.body tags) = c.lines.flatMap (·.words tags) := by
  have hwords := isWord_words htags hc
  unfold body
  split
  · exact words_oneLine hwords
  · have hfirst := words_append_break (List.not_mem_nil (a := '\n')) List.not_mem_nil
      ((c.lines.flatMap fun l => l.marginLine tags ++ ['\n']) ++ [' '])
    exact hfirst.trans (words_multiLine hwords)

/-- A comment with tags is read as written. -/
theorem parse_body (htags : tags.Distinguished) (hc : c.Valid tags) :
    parse (c.body tags) =
      ⟨c.lines.map fun l => (String.ofList (l.tag tags), l.valueText)⟩ := by
  have htagsOf := tagsOf_flatMap (TagLine.tag tags) TagLine.value 
    (fun l (_ : l ∈ c.lines) => htags.isTag l.kind) fun l hl => (hc l hl).notTag
  have hwords : DocComment.words (c.body tags) =
      c.lines.flatMap fun l => l.tag tags :: l.value := words_body htags hc
  rw [parse, hwords, htagsOf, List.map_map]
  rfl

/-- A tag is found under its own kind alone. -/
theorem sameTag_tag (htags : tags.Distinguished) (l : TagLine) (kind : TagKind) :
    sameTag (String.ofList (l.tag tags)) (tags.get kind) = decide (l.kind = kind) := by
  have hbare : bareName (String.ofList (l.tag tags)) = bareName (tags.get l.kind) := by
    rw [bareName, String.toList_ofList, TagLine.tag, List.dropWhile_cons_of_pos rfl, bareName,
      List.dropWhile_idempotent]
  rw [sameTag, hbare, Bool.eq_iff_iff, beq_iff_eq, decide_eq_true_eq]
  exact ⟨htags.distinct _ _, fun h => by rw [h]⟩

/-- The value that is read is the one that was written. -/
theorem value?_parse_body (htags : tags.Distinguished) (hc : c.Valid tags) (kind : TagKind) :
    (parse (c.body tags)).value? (tags.get kind) = c.valueOf kind := by
  have hsame : (fun t : String × String => sameTag t.1 (tags.get kind)) ∘
      (fun l : TagLine => (String.ofList (l.tag tags), l.valueText)) =
        fun l => decide (l.kind = kind) :=
    funext fun l => sameTag_tag htags l kind
  rw [parse_body htags hc, value?, List.find?_map, hsame, Option.map_map]
  rfl

/-- The tags that are read are those that were written. -/
theorem has_parse_body (htags : tags.Distinguished) (hc : c.Valid tags) (kind : TagKind) :
    (parse (c.body tags)).has (tags.get kind) = c.hasKind kind := by
  rw [parse_body htags hc, has, List.any_map, hasKind]
  congr 1
  funext l
  exact sameTag_tag htags l kind

end TagComment

/-! ## What a comment does not hold -/

namespace Text

/-- A text without blanks occurs among words only inside of one. -/
theorem infix_append_spaced {needle : List Char} (hblank : ' ' ∉ needle) (hne : needle ≠ [])
    {ws : List (List Char)} (hws : ∀ w ∈ ws, ¬ needle <:+: w) {s : List Char}
    (hs : ¬ needle <:+: s) : ¬ needle <:+: s ++ spaced ws := by
  induction ws generalizing s with
  | nil => rwa [spaced, List.flatMap_nil, List.append_nil]
  | cons w ws ih =>
    intro hoccurs
    have hsplit : s ++ spaced (w :: ws) = s ++ ' ' :: (w ++ spaced ws) := rfl
    rw [hsplit] at hoccurs
    rcases infix_append_cons hblank hne hoccurs with hfirst | hrest
    · exact hs hfirst
    · exact ih (fun v hv => hws v (List.mem_cons_of_mem _ hv)) (hws w List.mem_cons_self) hrest

/-- A text without line feeds occurs among lines only inside of one. -/
theorem infix_lines {α : Type} {needle : List Char} (hfeed : '\n' ∉ needle) (hne : needle ≠ [])
    {line : α → List Char} {items : List α} (hlines : ∀ a ∈ items, ¬ needle <:+: line a)
    {last : List Char} (hlast : ¬ needle <:+: last) :
    ¬ needle <:+: (items.flatMap fun a => line a ++ ['\n']) ++ last := by
  induction items with
  | nil => exact hlast
  | cons a items ih =>
    intro hoccurs
    rw [List.flatMap_cons, List.append_assoc, List.append_assoc] at hoccurs
    rcases infix_append_cons hfeed hne hoccurs with hfirst | hrest
    · exact hlines a List.mem_cons_self hfirst
    · exact ih (fun b hb => hlines b (List.mem_cons_of_mem _ hb)) hrest

/-- A word is a part of the text that it is written in. -/
theorem infix_spaced_of_mem {w : List Char} {ws : List (List Char)} (h : w ∈ ws) :
    w <:+: spaced ws := by
  obtain ⟨before, after, rfl⟩ := List.append_of_mem h
  exact ⟨spaced before ++ [' '], spaced after, by simp [spaced]⟩

end Text

namespace TagLine

variable {tags : Tags} {l : TagLine}

/-- No word of a tag and its value ends a comment. -/
theorem not_closed_words (htags : tags.Distinguished) (hl : l.Valid tags) :
    ∀ w ∈ l.words tags, ¬ ['*', '/'] <:+: w := by
  intro w hw hoccurs
  rcases List.mem_cons.1 hw with rfl | hw
  · have hmem : '*' ∈ l.tag tags := hoccurs.subset (by simp)
    rcases List.mem_cons.1 hmem with hstar | hmem
    · cases hstar
    · have hcode := toNat_of_isTagChar ((htags.tagChar l.kind).2 _ hmem)
      revert hcode
      decide
  · exact hl.closed (hoccurs.trans (Text.infix_spaced_of_mem hw))

/-- What stands behind the at sign of a tag does not look like a declaration. -/
theorem not_declares_tail (hl : l.Valid tags) :
    ¬ declarationWords <:+: bareName (tags.get l.kind) ++ Text.spaced l.value :=
  fun hoccurs => hl.declares (hoccurs.trans ⟨[' ', '@'], [], by simp [words, tag, Text.spaced]⟩)

end TagLine

namespace TagComment

variable {tags : Tags} {c : TagComment}

/-- A text without line feeds occurs in a comment with a line for every tag only inside of a
line. -/
theorem infix_multiLine {needle start : List Char} (hfeed : '\n' ∉ needle) (hne : needle ≠ [])
    (hlines : ∀ l ∈ c.lines, ¬ needle <:+: l.marginLine tags) {last : List Char}
    (hstart : ¬ needle <:+: start) (hlast : ¬ needle <:+: last) :
    ¬ needle <:+:
      start ++ '\n' :: ((c.lines.flatMap fun l => l.marginLine tags ++ ['\n']) ++ last) := by
  intro hoccurs
  rcases Text.infix_append_cons hfeed hne hoccurs with hfirst | hrest
  · exact hstart hfirst
  · exact Text.infix_lines hfeed hne hlines hlast hrest

/-- A written comment ends where it should. -/
theorem isBody_body (htags : tags.Distinguished) (hc : c.Valid tags) : IsBody (c.body tags) := by
  have hnil : ¬ ['*', '/'] <:+: ([] : List Char) := by decide
  unfold body
  split
  · have hwords : ∀ w ∈ c.lines.flatMap (·.words tags), ¬ ['*', '/'] <:+: w := by
      intro w hw
      obtain ⟨l, hl, hw⟩ := List.mem_flatMap.1 hw
      exact TagLine.not_closed_words htags (hc l hl) w hw
    refine ⟨fun hoccurs => ?_, ?_⟩
    · exact Text.infix_append_spaced (by decide) (by decide) hwords hnil
        (Text.infix_of_infix_concat (by decide) hoccurs)
    · cases c.lines <;> simp [TagLine.words, Text.spaced]
  · have hlines : ∀ l ∈ c.lines, ¬ ['*', '/'] <:+: l.marginLine tags := by
      intro l hl
      have hwords := TagLine.not_closed_words htags (hc l hl)
      exact Text.infix_append_spaced (s := [' ', '*']) (by decide) (by decide) hwords (by decide)
    exact ⟨infix_multiLine (by decide) (by decide) hlines hnil (by decide), by simp⟩

/-- Tags on one line do not look like a declaration. -/
theorem not_declares_oneLine {lines : List TagLine} (h : ∀ l ∈ lines, l.Valid tags)
    {s : List Char} (hs : ¬ declarationWords <:+: s) :
    ¬ declarationWords <:+: s ++ Text.spaced (lines.flatMap (·.words tags)) ++ [' ', '*', '/'] := by
  induction lines generalizing s with
  | nil =>
    intro hoccurs
    have hsplit : s ++ Text.spaced ([].flatMap (TagLine.words tags)) ++ [' ', '*', '/'] =
        s ++ [' '] ++ '*' :: ['/'] := by
      simp [Text.spaced]
    rw [hsplit] at hoccurs
    rcases Text.infix_append_cons (by decide) (by decide) hoccurs with hfirst | hrest
    · exact hs (Text.infix_of_infix_concat (by decide) hfirst)
    · exact absurd hrest (by decide)
  | cons l lines ih =>
    intro hoccurs
    have hsplit : s ++ Text.spaced ((l :: lines).flatMap (TagLine.words tags)) ++ [' ', '*', '/'] =
        s ++ [' '] ++ '@' :: (bareName (tags.get l.kind) ++ Text.spaced l.value ++
          Text.spaced (lines.flatMap (TagLine.words tags)) ++ [' ', '*', '/']) := by
      simp [Text.spaced, TagLine.words, TagLine.tag]
    rw [hsplit] at hoccurs
    rcases Text.infix_append_cons (by decide) (by decide) hoccurs with hfirst | hrest
    · exact hs (Text.infix_of_infix_concat (by decide) hfirst)
    · exact ih (fun other hother => h other (List.mem_cons_of_mem _ hother))
        (TagLine.not_declares_tail (h l List.mem_cons_self)) hrest

/-- A written comment does not hold a declaration. -/
theorem not_declares_text (hc : c.Valid tags) : ¬ declarationWords <:+: c.text tags := by
  have hopen : ¬ declarationWords <:+: ['/', '*', '*'] := by decide
  unfold text written body
  split
  · have hline := not_declares_oneLine hc hopen
    simpa using hline
  · have hlines : ∀ l ∈ c.lines, ¬ declarationWords <:+: l.marginLine tags := by
      intro l hl hoccurs
      have hsplit : l.marginLine tags =
          [' ', '*', ' '] ++ '@' :: (bareName (tags.get l.kind) ++ Text.spaced l.value) := by
        simp [TagLine.marginLine, TagLine.words, TagLine.tag, Text.spaced]
      rw [hsplit] at hoccurs
      rcases Text.infix_append_cons (by decide) (by decide) hoccurs with hfirst | hrest
      · exact absurd hfirst (by decide)
      · exact TagLine.not_declares_tail (hc l hl) hrest
    have hclose : ¬ declarationWords <:+: [' ', '*', '/'] := by decide
    have hline := infix_multiLine (by decide) (by decide) hlines hopen hclose
    simpa using hline

/-- A written comment may stand in front of a declaration. -/
theorem text_mem_leadText (htags : tags.Distinguished) (hc : c.Valid tags) :
    c.text tags ++ ['\n'] ∈ Pattern.leadText := by
  have hwords {ws : List (List Char)} (hws : ∀ w ∈ ws, Text.IsWord w) : '\n' ∉ Text.spaced ws :=
    Text.not_mem_spaced hws rfl (by decide)
  unfold text written body
  split
  · refine ⟨Text.spaced (c.lines.flatMap (·.words tags)) ++ [' ', '*', '/'], ?_, ['\n'], .inr rfl,
      [], Language.nil_mem_kstar _, by simp⟩
    refine Pattern.mem_runText_noBreak ?_
    simp [hwords (isWord_words htags hc)]
  · refine ⟨[], Pattern.mem_runText_noBreak (by simp), ['\n'], .inr rfl,
      (c.lines.flatMap fun l => l.marginLine tags ++ ['\n']) ++ [' ', '*', '/', '\n'], ?_, by simp⟩
    refine ⟨c.lines.map (fun l => l.marginLine tags ++ ['\n']) ++ [[' ', '*', '/', '\n']],
      by simp [List.flatMap_def], ?_⟩
    have hblank : [' '] ∈ Pattern.runText Pattern.marginBlank := by
      intro d hd
      rw [List.mem_singleton.1 hd]
      rfl
    intro line hline
    rcases List.mem_append.1 hline with hline | hline
    · obtain ⟨l, hl, rfl⟩ := List.mem_map.1 hline
      exact ⟨[' '], hblank, Text.spaced (l.words tags),
        Pattern.mem_runText_noBreak (hwords (htags.isWord_words (hc l hl))), rfl⟩
    · obtain rfl := List.mem_singleton.1 hline
      exact ⟨[' '], hblank, ['/'], Pattern.mem_runText_noBreak (by decide), rfl⟩

end TagComment

end StyleObjects
