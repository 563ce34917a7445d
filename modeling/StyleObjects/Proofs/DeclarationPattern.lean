import StyleObjects.Extract
import StyleObjects.Proofs.PatternLanguage

/-!
# The usual pattern of a declaration

The usual pattern is read part by part, with any name filled in.  It matches a declaration, and in
front of it perhaps the start of a doc comment and lines with a margin; that the comment is closed
there is not part of the pattern.

Main results:

- `readParts_declarationSource`: the usual pattern is read as intended.
- `accepts_declaration`: what it matches.
- `marginLines_of_lead`: after a line break in front of a declaration come lines with a margin.
-/

open scoped Computability

namespace StyleObjects

namespace Pattern

/-! ## Reading part by part -/

/-- Whether parts of a pattern are read on the way from one state to another, each of which takes a
character. -/
def Progress.Reaches (p : Progress) (s : List Char) (p' : Progress) (s' : List Char) : Prop :=
  ∃ count, count + s'.length ≤ s.length ∧
    ∀ fuel, readParts (fuel + count) p s = readParts fuel p' s'

namespace Progress.Reaches

variable {p p' p'' : Progress} {s s' s'' : List Char}

theorem refl (p : Progress) (s : List Char) : p.Reaches s p s :=
  ⟨0, by simp, fun _ => rfl⟩

theorem trans (h : p.Reaches s p' s') (h' : p'.Reaches s' p'' s'') : p.Reaches s p'' s'' := by
  obtain ⟨count, hlength, hread⟩ := h
  obtain ⟨count', hlength', hread'⟩ := h'
  refine ⟨count' + count, by omega, ?_⟩
  intro fuel
  rw [← Nat.add_assoc, hread, hread']

/-- One part is read. -/
theorem part (hflags : p.flags.extended = false) (h : readPart p s = some (p', s'))
    (hlength : s'.length < s.length) : p.Reaches s p' s' := by
  refine ⟨1, by omega, ?_⟩
  intro fuel
  cases s with
  | nil => cases h
  | cons c rest =>
    simp [readParts, Flags.skip_of_not_extended hflags, h]

/-- If nothing is left to read and no group is open, then the whole pattern has been read. -/
theorem readParts_eq (h : p.Reaches s p' []) (hflags : p'.flags.extended = false)
    (houter : p'.outer = []) : readParts (s.length + 1) p s = some p'.level.finish := by
  obtain ⟨count, hlength, hread⟩ := h
  have hfuel : s.length + 1 = s.length - count + 1 + count := by
    rw [List.length_nil] at hlength
    omega
  rw [hfuel, hread, readParts, Flags.skip_of_not_extended hflags]
  simp [houter]

end Progress.Reaches

/-! ## Parts of the usual pattern -/

/-- The characters that do not end a line. -/
def noBreak : CharSet := (CharSet.single '\n').compl

/-- The characters in front of the star of a margin. -/
def marginBlank : CharSet := (CharSet.single ' ').union (CharSet.single '\t')

/-- The characters that may follow the name in a declaration. -/
def delimiter : CharSet := (CharSet.union Text.isBlank (CharSet.single ':')).union (.single '=')

/-- One character. -/
def char (c : Char) : Pattern := one (.single c)

/-- The rest of a line, or what stands in front of a star. -/
def run (set : CharSet) : Pattern := repeated (one set) 0 none true

/-- A line with a margin. -/
def marginLine : Pattern := ofList [run marginBlank, char '*', run noBreak, char '\n']

/-- What may stand in front of a declaration: the start of a doc comment, and lines with a
margin. -/
def lead : Pattern :=
  ofList [char '/', char '*', char '*', run noBreak, repeated (char '\n') 0 (some 1) true,
    repeated marginLine 0 none true]

/-- What a declaration starts with. -/
def exportConst : List Char :=
  ['e', 'x', 'p', 'o', 'r', 't', ' ', 'c', 'o', 'n', 's', 't', ' ']

/-- The start of a declaration, up to its name. -/
def exportOf (name : List Char) : List Char :=
  exportConst ++ name

/-- The usual pattern with a name filled in. -/
def declaration (name : List Char) : Pattern :=
  ofList (repeated lead 0 (some 1) true :: (exportOf name).map char ++ [one delimiter])

section

variable {level : Level} {outer : List (Level × Flags)} {names : List (List Char)}
variable {rest : List Char}

/-- Without a question mark behind it a repetition is greedy. -/
theorem readGreedy_initial (h : rest.head? ≠ some '?') :
    readGreedy .initial rest = (true, rest) := by
  cases rest with
  | nil => rfl
  | cons c rest =>
    unfold readGreedy
    split
    · simp_all
    · rfl

/-- A star repeats what was read last. -/
theorem reaches_many {x : Pattern} (h : rest.head? ≠ some '?') :
    Progress.Reaches ⟨level.add x, .initial, outer, names⟩ ('*' :: rest)
      ⟨level.add (repeated x 0 none true), .initial, outer, names⟩ rest := by
  refine .part rfl ?_ (by simp)
  simp only [readPart, applyRepetition, readGreedy_initial h]
  rfl

/-- A question mark makes what was read last optional. -/
theorem reaches_optional {x : Pattern} (h : rest.head? ≠ some '?') :
    Progress.Reaches ⟨level.add x, .initial, outer, names⟩ ('?' :: rest)
      ⟨level.add (repeated x 0 (some 1) true), .initial, outer, names⟩ rest := by
  refine .part rfl ?_ (by simp)
  simp only [readPart, applyRepetition, readGreedy_initial h]
  rfl

/-- The rest of a line. -/
theorem reaches_noBreaks (h : rest.head? ≠ some '?') :
    Progress.Reaches ⟨level, .initial, outer, names⟩
      ('[' :: '^' :: '\\' :: 'n' :: ']' :: '*' :: rest)
      ⟨level.add (run noBreak), .initial, outer, names⟩ rest := by
  have hclass : Progress.Reaches ⟨level, .initial, outer, names⟩
      ('[' :: '^' :: '\\' :: 'n' :: ']' :: '*' :: rest)
      ⟨level.add (one noBreak), .initial, outer, names⟩ ('*' :: rest) :=
    .part rfl rfl (by simp)
  exact hclass.trans (reaches_many h)

/-- A group is opened. -/
theorem reaches_open (h : outer.length < maxNesting) :
    Progress.Reaches ⟨level, .initial, outer, names⟩ ('(' :: '?' :: ':' :: rest)
      ⟨.empty, .initial, (level, .initial) :: outer, names⟩ rest := by
  refine .part rfl ?_ (by simp only [List.length_cons]; omega)
  simp only [readPart, h, if_true]
  rfl

/-- A group is closed. -/
theorem reaches_close {inner : Level} :
    Progress.Reaches ⟨inner, .initial, (level, .initial) :: outer, names⟩ (')' :: rest)
      ⟨level.add inner.finish, .initial, outer, names⟩ rest :=
  .part rfl rfl (by simp)

/-- A character that stands for itself, with a backslash if it needs one. -/
theorem reaches_char (c : Char) :
    Progress.Reaches ⟨level, .initial, outer, names⟩ (escape [c] ++ rest)
      ⟨level.add (char c), .initial, outer, names⟩ rest := by
  by_cases hmeta : isMeta c = true
  · have hescape : escape [c] = ['\\', c] := by simp [escape, hmeta]
    rw [hescape]
    refine .part rfl ?_ (by simp only [List.length_append, List.length_cons]; omega)
    simp only [List.cons_append, List.nil_append, readPart, readEscape_of_isMeta hmeta]
    rfl
  · have hescape : escape [c] = [c] := by simp [escape, hmeta]
    rw [hescape]
    refine .part rfl ?_ (by simp)
    simp only [isMeta, List.elem_cons, List.elem_nil] at hmeta
    simp only [List.cons_append, List.nil_append, readPart]
    split
    all_goals simp_all
    rfl

/-- A text that stands for itself. -/
theorem reaches_text (text : List Char) :
    Progress.Reaches ⟨level, .initial, outer, names⟩ (escape text ++ rest)
      ⟨text.foldl (fun level c => level.add (char c)) level, .initial, outer, names⟩ rest := by
  induction text generalizing level with
  | nil => exact .refl _ _
  | cons c text ih =>
    have hescape : escape (c :: text) ++ rest = escape [c] ++ (escape text ++ rest) := by
      simp [escape]
    rw [hescape]
    exact (reaches_char c).trans ih

/-- An escaped `n` is a line feed. -/
theorem reaches_break :
    Progress.Reaches ⟨level, .initial, outer, names⟩ ('\\' :: 'n' :: rest)
      ⟨level.add (char '\n'), .initial, outer, names⟩ rest :=
  .part rfl rfl (by simp only [List.length_cons]; omega)

/-- Any number of lines with a margin. -/
theorem reaches_marginLines (houter : outer.length < maxNesting) (h : rest.head? ≠ some '?') :
    Progress.Reaches ⟨level, .initial, outer, names⟩
      ('(' :: '?' :: ':' :: '[' :: ' ' :: '\\' :: 't' :: ']' :: '*' :: (escape ['*'] ++
        '[' :: '^' :: '\\' :: 'n' :: ']' :: '*' :: '\\' :: 'n' :: ')' :: '*' :: rest))
      ⟨level.add (repeated marginLine 0 none true), .initial, outer, names⟩ rest := by
  refine (reaches_open houter).trans ?_
  refine Progress.Reaches.trans (Progress.Reaches.part rfl rfl (by simp)) ?_
  refine (reaches_many (by simp [escape, isMeta])).trans ?_
  refine (reaches_text ['*']).trans ?_
  refine (reaches_noBreaks (by simp)).trans ?_
  refine reaches_break.trans ?_
  refine reaches_close.trans ?_
  exact reaches_many h

/-- What may stand in front of a declaration. -/
theorem reaches_lead (houter : outer.length + 1 < maxNesting) (h : rest.head? ≠ some '?') :
    Progress.Reaches ⟨level, .initial, outer, names⟩
      ('(' :: '?' :: ':' :: (escape ['/', '*', '*'] ++
        '[' :: '^' :: '\\' :: 'n' :: ']' :: '*' :: '\\' :: 'n' :: '?' ::
        '(' :: '?' :: ':' :: '[' :: ' ' :: '\\' :: 't' :: ']' :: '*' :: (escape ['*'] ++
          '[' :: '^' :: '\\' :: 'n' :: ']' :: '*' :: '\\' :: 'n' :: ')' :: '*' :: ')' :: '?' :: rest)))
      ⟨level.add (repeated lead 0 (some 1) true), .initial, outer, names⟩ rest := by
  refine (reaches_open (by omega)).trans ?_
  refine (reaches_text ['/', '*', '*']).trans ?_
  refine (reaches_noBreaks (by simp)).trans ?_
  refine reaches_break.trans ?_
  refine (reaches_optional (by simp)).trans ?_
  refine (reaches_marginLines (by simpa using houter) (by simp)).trans ?_
  refine reaches_close.trans ?_
  exact reaches_optional h

end

/-- The pattern of a declaration as it is written. -/
def declarationSource (name : List Char) : List Char :=
  '(' :: '?' :: ':' :: (escape ['/', '*', '*'] ++
    '[' :: '^' :: '\\' :: 'n' :: ']' :: '*' :: '\\' :: 'n' :: '?' ::
    '(' :: '?' :: ':' :: '[' :: ' ' :: '\\' :: 't' :: ']' :: '*' :: (escape ['*'] ++
      '[' :: '^' :: '\\' :: 'n' :: ']' :: '*' :: '\\' :: 'n' :: ')' :: '*' :: ')' :: '?' ::
    (escape exportConst ++ (escape name ++ ['[', '\\', 's', ':', '=', ']']))))

/-- The name takes the place of the placeholder, its special characters escaped. -/
theorem toList_declarationPattern (name : String) :
    (declarationPattern usualPattern name).toList = declarationSource name.toList := by
  have husual : usualPattern.toList = ['(', '?', ':', '/', '\\', '*', '\\', '*', '[', '^', '\\', 'n',
      ']', '*', '\\', 'n', '?', '(', '?', ':', '[', ' ', '\\', 't', ']', '*', '\\', '*', '[', '^',
      '\\', 'n', ']', '*', '\\', 'n', ')', '*', ')', '?', 'e', 'x', 'p', 'o', 'r', 't', ' ', 'c', 'o',
      'n', 's', 't', ' '] ++ 'X' :: ['X', 'X', 'X', 'X', 'X'] ++ ['[', '\\', 's', ':', '=', ']'] := by
    rfl
  have hplaceholder : placeholder.toList = 'X' :: ['X', 'X', 'X', 'X', 'X'] := by rfl
  rw [declarationPattern, String.toList_ofList, husual, hplaceholder,
    Text.replace_middle (by decide) (by decide)]
  rfl

/-- Characters are added to a level one after the other. -/
theorem parts_foldl_add (text : List Char) (level : Level) :
    (text.foldl (fun level c => level.add (char c)) level).parts =
      (text.map fun c => some (char c)).reverse ++ level.parts := by
  induction text generalizing level with
  | nil => rfl
  | cons c text ih =>
    rw [List.foldl_cons, ih]
    simp [Level.add]

theorem choices_foldl_add (text : List Char) (level : Level) :
    (text.foldl (fun level c => level.add (char c)) level).choices = level.choices := by
  induction text generalizing level with
  | nil => rfl
  | cons c text ih => exact ih _

/-- The usual pattern is read as intended, whatever name is filled in. -/
theorem readParts_declarationSource (name : List Char) :
    readParts ((declarationSource name).length + 1) .start (declarationSource name) =
      some (declaration name) := by
  have hreach : Progress.Reaches .start (declarationSource name)
      ⟨(name.foldl (fun level c => level.add (char c))
        (exportConst.foldl (fun level c => level.add (char c))
          (Level.empty.add (repeated lead 0 (some 1) true)))).add (one delimiter), .initial, [], []⟩
      [] := by
    refine (reaches_lead (by decide) ?_).trans ?_
    · simp [exportConst, escape, isMeta]
    refine (reaches_text exportConst).trans ?_
    refine (reaches_text name).trans ?_
    exact .part rfl rfl (by simp)
  have hadd (level : Level) (x : Pattern) : (level.add x).parts = some x :: level.parts := rfl
  have hchoices (level : Level) (x : Pattern) : (level.add x).choices = level.choices := rfl
  rw [hreach.readParts_eq rfl rfl, Level.finish]
  simp only [hadd, hchoices, parts_foldl_add, choices_foldl_add]
  simp [Level.empty, declaration, exportOf, List.filterMap_map]

/-! ## Texts -/

/-- One text and no other. -/
def onlyText (t : List Char) : Language Char := {u | u = t}

theorem mem_onlyText {t u : List Char} : u ∈ onlyText t ↔ u = t := Iff.rfl

/-- The single characters of a set. -/
def letterText (set : CharSet) : Language Char := {t | ∃ c, t = [c] ∧ set c = true}

/-- The texts of a set of characters. -/
def runText (set : CharSet) : Language Char := {t | ∀ c ∈ t, set c = true}

/-- A line with a margin: blanks, a star, and the rest of the line. -/
def marginText : Language Char :=
  {t | ∃ blanks ∈ runText marginBlank, ∃ line ∈ runText noBreak,
    t = blanks ++ '*' :: line ++ ['\n']}

/-- What may stand in front of a declaration: the start of a doc comment up to the end of its line,
perhaps a line break, and lines with a margin. -/
def leadText : Language Char :=
  {t | ∃ line ∈ runText noBreak, ∃ ending, (ending = [] ∨ ending = ['\n']) ∧
    ∃ lines ∈ marginText∗, t = ['/', '*', '*'] ++ line ++ ending ++ lines}

/-- A declaration with what stands in front of it. -/
def declarationText (name : List Char) : Language Char :=
  {t | ∃ lead, (lead = [] ∨ lead ∈ leadText) ∧
    ∃ d, delimiter d = true ∧ t = lead ++ exportOf name ++ [d]}

/-- A character matches itself alone. -/
theorem accepts_char (c : Char) : (char c).Accepts (onlyText [c]) := by
  have hset : letterText (.single c) = onlyText [c] := by
    ext t
    constructor
    · rintro ⟨d, rfl, hd⟩
      rw [LawfulBEq.eq_of_beq hd]
      rfl
    · rintro rfl
      exact ⟨c, rfl, by simp [CharSet.single]⟩
  rw [← hset]
  exact accepts_one _

/-- A repeated set matches texts over it. -/
theorem accepts_run (set : CharSet) : (run set).Accepts (runText set) := by
  have hset : (letterText set)∗ = runText set := by
    ext t
    constructor
    · rintro ⟨letters, rfl, hletters⟩ c hc
      obtain ⟨letter, hletter, hc⟩ := List.mem_flatten.1 hc
      obtain ⟨d, rfl, hd⟩ := hletters letter hletter
      rwa [List.mem_singleton.1 hc]
    · intro ht
      refine ⟨t.map ([·]), ?_, ?_⟩
      · rw [← List.flatMap_def, List.flatMap_singleton']
      intro letter hletter
      obtain ⟨c, hc, rfl⟩ := List.mem_map.1 hletter
      exact ⟨c, rfl, ht c hc⟩
  rw [← hset]
  exact accepts_many (accepts_one set)

/-- Characters behind a pattern match themselves behind what it matches. -/
theorem accepts_foldl_char {x : Pattern} {L : Language Char} (h : x.Accepts L) (text : List Char) :
    ((text.map char).foldl concat x).Accepts (L * onlyText text) := by
  induction text generalizing x L with
  | nil =>
    have hunit : L * onlyText [] = L := mul_one L
    rwa [hunit]
  | cons c text ih =>
    have hcons : onlyText (c :: text) = onlyText [c] * onlyText text := by
      ext t
      simp [Language.mem_mul, mem_onlyText, eq_comm]
    rw [hcons, ← mul_assoc]
    exact ih (accepts_concat h (accepts_char c))

/-- A line with a margin is matched as a whole. -/
theorem accepts_marginLine : marginLine.Accepts marginText := by
  have hset : runText marginBlank * onlyText ['*'] * runText noBreak * onlyText ['\n'] =
      marginText := by
    ext t
    simp only [Language.mem_mul, mem_onlyText]
    constructor
    · rintro ⟨_, ⟨_, ⟨blanks, hblanks, _, rfl, rfl⟩, line, hline, rfl⟩, _, rfl, rfl⟩
      exact ⟨blanks, hblanks, line, hline, by simp⟩
    · rintro ⟨blanks, hblanks, line, hline, rfl⟩
      exact ⟨_, ⟨_, ⟨blanks, hblanks, _, rfl, rfl⟩, line, hline, rfl⟩, _, rfl, by simp⟩
  rw [← hset]
  exact accepts_concat (accepts_concat (accepts_concat (accepts_run _) (accepts_char _))
    (accepts_run _)) (accepts_char _)

/-- The start of a doc comment is matched with its lines. -/
theorem accepts_lead : lead.Accepts leadText := by
  have hset : onlyText ['/'] * onlyText ['*'] * onlyText ['*'] * runText noBreak *
      (1 + onlyText ['\n']) * marginText∗ = leadText := by
    ext t
    simp only [Language.mem_mul, Language.mem_add, Language.mem_one, mem_onlyText]
    constructor
    · rintro ⟨_, ⟨_, ⟨_, ⟨_, ⟨_, rfl, _, rfl, rfl⟩, _, rfl, rfl⟩, line, hline, rfl⟩, ending, hending,
        rfl⟩, lines, hlines, rfl⟩
      exact ⟨line, hline, ending, hending, lines, hlines, by simp⟩
    · rintro ⟨line, hline, ending, hending, lines, hlines, rfl⟩
      exact ⟨_, ⟨_, ⟨_, ⟨_, ⟨_, rfl, _, rfl, rfl⟩, _, rfl, rfl⟩, line, hline, rfl⟩, ending, hending,
        rfl⟩, lines, hlines, by simp⟩
  rw [← hset]
  exact accepts_concat (accepts_concat (accepts_concat (accepts_concat (accepts_concat
    (accepts_char _) (accepts_char _)) (accepts_char _)) (accepts_run _))
    (accepts_optional (accepts_char _))) (accepts_many accepts_marginLine)

/-- What the usual pattern matches. -/
theorem accepts_declaration (name : List Char) :
    (declaration name).Accepts (declarationText name) := by
  have hset : (1 + leadText) * onlyText (exportOf name) * letterText delimiter =
      declarationText name := by
    ext t
    simp only [Language.mem_mul, Language.mem_add, Language.mem_one, mem_onlyText]
    constructor
    · rintro ⟨_, ⟨lead, hlead, _, rfl, rfl⟩, _, ⟨d, rfl, hd⟩, rfl⟩
      exact ⟨lead, hlead, d, hd, rfl⟩
    · rintro ⟨lead, hlead, d, hd, rfl⟩
      exact ⟨_, ⟨lead, hlead, _, rfl, rfl⟩, _, ⟨d, rfl, hd⟩, rfl⟩
  have hparts : declaration name =
      concat (((exportOf name).map char).foldl concat (repeated lead 0 (some 1) true))
        (one delimiter) := by
    rw [declaration, List.cons_append, ofList, List.foldl_append]
    rfl
  rw [← hset, hparts]
  exact accepts_concat (accepts_foldl_char (accepts_optional accepts_lead) _) (accepts_one _)

/-! ## Lines in front of a declaration -/

/-- Whether a text starts with a margin: blanks and a star. -/
def StartsMargin (s : List Char) : Prop :=
  ∃ blanks ∈ runText marginBlank, ∃ rest, s = blanks ++ '*' :: rest

/-- A text over a set has no character outside of it. -/
theorem not_mem_of_runText {set : CharSet} {t : List Char} {c : Char} (ht : t ∈ runText set)
    (hc : set c = false) : c ∉ t := by
  intro hmem
  rw [ht c hmem] at hc
  cases hc

/-- A text without line feeds stays on its line. -/
theorem mem_runText_noBreak {t : List Char} (h : '\n' ∉ t) : t ∈ runText noBreak := by
  intro c hc
  have hne : c ≠ '\n' := fun heq => h (heq ▸ hc)
  simpa [noBreak, CharSet.single, CharSet.compl] using hne

/-- A text that starts with neither a blank of a margin nor a star has no margin. -/
theorem not_startsMargin_cons {c : Char} (hblank : marginBlank c = false) (hstar : c ≠ '*')
    (s : List Char) : ¬ StartsMargin (c :: s) := by
  rintro ⟨blanks, hblanks, rest, hsplit⟩
  cases blanks with
  | nil => exact hstar (List.cons.inj hsplit).1
  | cons d blanks =>
    obtain ⟨rfl, _⟩ := List.cons.inj hsplit
    exact not_mem_of_runText hblanks hblank List.mem_cons_self

/-- Lines with a margin are nothing, or start with one. -/
theorem eq_nil_or_startsMargin {lines : List Char} (h : lines ∈ marginText∗) :
    lines = [] ∨ StartsMargin lines := by
  obtain ⟨parts, rfl, hparts⟩ := h
  cases parts with
  | nil => exact .inl rfl
  | cons first parts =>
    obtain ⟨blanks, hblanks, line, _, rfl⟩ := hparts first List.mem_cons_self
    exact .inr ⟨blanks, hblanks, line ++ ['\n'] ++ parts.flatten, by simp⟩

/-- After a line break among lines with a margin come more of them. -/
theorem marginLines_after_break {x v : List Char} (h : x ++ '\n' :: v ∈ marginText∗) :
    v ∈ marginText∗ := by
  obtain ⟨parts, hsplit, hparts⟩ := h
  induction parts generalizing x with
  | nil => simp at hsplit
  | cons first parts ih =>
    obtain ⟨blanks, hblanks, line, hline, rfl⟩ := hparts first List.mem_cons_self
    have hrest : ∀ part ∈ parts, part ∈ marginText :=
      fun part hpart => hparts part (List.mem_cons_of_mem _ hpart)
    have hfirst : '\n' ∉ blanks ++ '*' :: line := by
      rw [List.mem_append, List.mem_cons]
      rintro (hmem | hmem | hmem)
      · exact not_mem_of_runText (c := '\n') hblanks (by decide) hmem
      · cases hmem
      · exact not_mem_of_runText (c := '\n') hline (by decide) hmem
    have hbreak : x ++ '\n' :: v = blanks ++ '*' :: line ++ ('\n' :: parts.flatten) := by
      rw [hsplit]
      simp
    obtain ⟨w, rfl, hw⟩ := Text.append_cons_eq_append hbreak hfirst
    cases w with
    | nil =>
      obtain ⟨_, rfl⟩ := List.cons.inj hw
      exact ⟨parts, rfl, hrest⟩
    | cons d w =>
      obtain ⟨_, hw⟩ := List.cons.inj hw
      exact ih hw.symm hrest

/-- After a line break in front of a declaration come lines with a margin. -/
theorem marginLines_of_lead {x v : List Char} (h : x ++ '\n' :: v ∈ leadText) :
    v ∈ marginText∗ := by
  obtain ⟨line, hline, ending, hending, lines, hlines, hsplit⟩ := h
  have hstart : '\n' ∉ ['/', '*', '*'] ++ line := by
    rw [List.mem_append]
    rintro (hmem | hmem)
    · simp at hmem
    · exact not_mem_of_runText (c := '\n') hline (by decide) hmem
  rw [List.append_assoc] at hsplit
  obtain ⟨w, rfl, hw⟩ := Text.append_cons_eq_append hsplit hstart
  rcases hending with rfl | rfl
  · rw [List.nil_append] at hw
    rw [hw] at hlines
    exact marginLines_after_break hlines
  · cases w with
    | nil =>
      obtain ⟨_, rfl⟩ := List.cons.inj hw
      exact hlines
    | cons d w =>
      obtain ⟨_, rfl⟩ := List.cons.inj hw
      exact marginLines_after_break hlines

end Pattern

end StyleObjects
