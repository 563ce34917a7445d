import StyleObjects.Proofs.CommentScan
import StyleObjects.Proofs.DeclarationPattern

/-!
# The comment of an object

With the usual pattern, the comment of an object is looked for in the leftmost stretch of the source
that is its declaration with the start of a doc comment in front of it.  The pattern does not say
that the comment is closed there.  So the comment above one declaration can be read as the comment
of another object; but not if nothing else stands behind comments on their last line.

Main results:

- `findsFirst_searchPattern`: the matcher that is used finds leftmost matches.
- `objectComment_eq`: where the comment of an object is looked for.
- `directlyAbove_of_objectComment`: then it stands directly above the declaration.
-/

namespace StyleObjects

open Pattern

/-! ## Matchers -/

/-- Whether a matcher finds the leftmost match of a pattern and there the one that is preferred. -/
def Matcher.FindsFirst (search : Matcher) (pattern : List Char) : Prop :=
  ∀ x, readParts (pattern.length + 1) .start pattern = some x →
    ∀ source, search pattern source = (x.find source).elim .notFound .found

/-- The usual pattern with a name filled in. -/
def usualFor (name : String) : List Char :=
  (declarationPattern usualPattern name).toList

/-- Each character of a text takes one step. -/
theorem steps_foldl_char (text : List Char) (x : Pattern) :
    ((text.map char).foldl concat x).steps = x.steps + text.length := by
  induction text generalizing x with
  | nil => rfl
  | cons c text ih =>
    rw [List.map_cons, List.foldl_cons, ih, List.length_cons]
    simp only [steps, char]
    omega

/-- The pattern of a declaration grows with the name alone. -/
theorem steps_declaration (name : List Char) : (declaration name).steps = name.length + 29 := by
  rw [declaration, List.cons_append, ofList, List.foldl_append]
  simp only [List.foldl_cons, List.foldl_nil, steps, steps_foldl_char, exportOf,
    List.length_append]
  have hlead : (repeated lead 0 (some 1) true).steps = 15 := by rfl
  have hexport : exportConst.length = 13 := by rfl
  simp only [steps] at hlead
  omega

/-- The matcher that is used finds leftmost matches, unless a name is too long for its limit. -/
theorem findsFirst_searchPattern {name : String} (h : name.toList.length + 29 ≤ maxSteps) :
    Matcher.FindsFirst searchPattern (usualFor name) := by
  intro x hx source
  have hparts := readParts_declarationSource name.toList
  rw [← toList_declarationPattern] at hparts
  obtain rfl := Option.some.inj (hparts.symm.trans hx)
  have hparse : parse? (usualFor name) = some (declaration name.toList) := by
    rw [parse?, usualFor, hparts, Option.filter_some, steps_declaration]
    simpa using h
  rw [searchPattern, hparse]

/-! ## Where a comment is looked for -/

/-- Whether a stretch of a source is the leftmost one that the usual pattern matches. -/
structure FirstMatch (source : List Char) (name : String) (front lead : List Char) (d : Char)
    (rest : List Char) : Prop where
  source_eq : source = front ++ (lead ++ exportOf name.toList ++ [d]) ++ rest
  lead : lead = [] ∨ lead ∈ leadText
  delimiter : delimiter d = true
  first : ∀ front' lead' d' rest', (lead' = [] ∨ lead' ∈ leadText) → Pattern.delimiter d' = true →
    source = front' ++ (lead' ++ exportOf name.toList ++ [d']) ++ rest' →
    front.length ≤ front'.length

/-- The comments of a stretch are those of its text, with offsets into the whole source. -/
theorem commentsIn_middle (front t rest : List Char) (block : CommentBlock) :
    commentsIn (front ++ t ++ rest) ⟨front.length, front.length + t.length⟩ block =
      match DocComment.bodies t with
      | .ok bodies => .ok (bodies.map DocComment.parse)
      | .error offset =>
        .error (.unterminated block (lineOf (front ++ t ++ rest) (front.length + offset))) := by
  have htext : Range.text ⟨front.length, front.length + t.length⟩ (front ++ t ++ rest) = t := by
    simp [Range.text]
  rw [commentsIn, htext]
  rfl

/-- The comment of an object is looked for in the leftmost match.  Without a match there is none. -/
theorem objectComment_eq {search : Matcher} {name : String}
    (hsearch : search.FindsFirst (usualFor name)) (source : List Char) :
    (objectComment search usualPattern source name = .ok none ∧
      ∀ front lead d rest, (lead = [] ∨ lead ∈ leadText) → delimiter d = true →
        source ≠ front ++ (lead ++ exportOf name.toList ++ [d]) ++ rest) ∨
    ∃ front lead d rest, FirstMatch source name front lead d rest ∧
      objectComment search usualPattern source name =
        (commentsIn source
          ⟨front.length, front.length + (lead ++ exportOf name.toList ++ [d]).length⟩
          (.object name)).map List.head? := by
  have hparts := readParts_declarationSource name.toList
  rw [← toList_declarationPattern] at hparts
  have hfind := hsearch _ hparts source
  have haccepts := accepts_declaration name.toList
  cases hfound : (declaration name.toList).find source with
  | none =>
    rw [hfound] at hfind
    refine .inl ⟨?_, ?_⟩
    · unfold objectComment
      rw [usualFor] at hfind
      simp only [hfind]
      rfl
    · intro front lead d rest hlead hd
      exact haccepts.findFrom_eq_none hfound front _ ⟨lead, hlead, d, hd, rfl⟩ rest
  | some range =>
    rw [hfound] at hfind
    obtain ⟨front, t, ⟨lead, hlead, d, hd, rfl⟩, rest, hsource, hrange, hfirst⟩ :=
      haccepts.findFrom_eq_some hfound
    refine .inr ⟨front, lead, d, rest, ⟨hsource, hlead, hd, ?_⟩, ?_⟩
    · intro front' lead' d' rest' hlead' hd' hsplit
      exact hfirst front' _ ⟨lead', hlead', d', hd', rfl⟩ rest' hsplit
    · rw [Nat.zero_add] at hrange
      unfold objectComment
      rw [usualFor] at hfind
      simp only [hfind, hrange, Option.elim_some]
      cases commentsIn source _ (.object name) <;> rfl

/-! ## Comments above declarations -/

/-- Whether a text is blank and stays on its line. -/
def IsGap (s : List Char) : Prop :=
  ∀ c ∈ s, Text.isBlank c = true ∧ c ≠ '\n'

/-- Whether a text starts with the declaration of an object. -/
def Declares (name s : List Char) : Prop :=
  ∃ d rest, delimiter d = true ∧ s = exportOf name ++ d :: rest

/-- Whether a line is over and none with a margin follows. -/
def EndsLine (s : List Char) : Prop :=
  s = [] ∨ ∃ next, s = '\n' :: next ∧ ¬ StartsMargin next

/-- Whether nothing but blanks stands behind every doc comment on its last line, unless it is the
declaration of the object itself. -/
def ClearBehindComments (name source : List Char) : Prop :=
  ∀ before body after, source = before ++ DocComment.written body ++ after →
    DocComment.IsBody body →
    ∃ gap rest, after = gap ++ rest ∧ IsGap gap ∧ (EndsLine rest ∨ Declares name rest)

/-- Whether a doc comment stands directly above the declaration of an object, with blanks and at
most one line break in between. -/
def DirectlyAbove (source before body name : List Char) : Prop :=
  DocComment.IsBody body ∧ ∃ gap d after, delimiter d = true ∧
    (∀ c ∈ gap, Text.isBlank c = true) ∧ gap.count '\n' ≤ 1 ∧
    source = before ++ DocComment.written body ++ gap ++ exportOf name ++ d :: after

/-- Whether a text can be the name of an exported constant, as far as declarations are found by
it. -/
def IsName (name : List Char) : Prop :=
  ∀ c ∈ name, c ≠ '/' ∧ delimiter c = false

instance (name : List Char) : Decidable (IsName name) :=
  List.decidableBAll _ name

/-- Blanks are no part of a declaration. -/
theorem not_mem_of_blank {s : List Char} (h : ∀ c ∈ s, Text.isBlank c = true) : 'e' ∉ s := by
  intro hmem
  have hblank := h _ hmem
  revert hblank
  decide

namespace IsGap

variable {gap : List Char}

theorem not_mem (h : IsGap gap) : 'e' ∉ gap :=
  not_mem_of_blank fun c hc => (h c hc).1

/-- A gap stays on its line. -/
theorem count_eq_zero (h : IsGap gap) : gap.count '\n' = 0 :=
  List.count_eq_zero_of_not_mem fun hc => (h _ hc).2 rfl

/-- A doc comment on the line of a declaration, with blanks in between. -/
theorem directlyAbove (h : IsGap gap) {before body name after : List Char} {d : Char}
    (hbody : DocComment.IsBody body) (hd : delimiter d = true) :
    DirectlyAbove (before ++ DocComment.written body ++ (gap ++ exportOf name ++ d :: after)) before
      body name :=
  ⟨hbody, gap, d, after, hd, fun c hc => (h c hc).1, by rw [h.count_eq_zero]; exact Nat.zero_le 1,
    by simp⟩

/-- A doc comment on the line above a declaration. -/
theorem directlyAbove_break (h : IsGap gap) {before body name after : List Char} {d : Char}
    (hbody : DocComment.IsBody body) (hd : delimiter d = true) :
    DirectlyAbove
      (before ++ DocComment.written body ++ (gap ++ ['\n'] ++ exportOf name ++ d :: after)) before
      body name := by
  refine ⟨hbody, gap ++ ['\n'], d, after, hd, ?_, ?_, by simp⟩
  · intro c hc
    rcases List.mem_append.1 hc with hc | hc
    · exact (h c hc).1
    · rw [List.mem_singleton.1 hc]
      rfl
  · rw [List.count_append, h.count_eq_zero]
    rfl

end IsGap

/-- A doc comment directly above one declaration is not directly above another. -/
theorem DirectlyAbove.name_eq {source before body name other : List Char} (hname : IsName name)
    (hother : IsName other) (h : DirectlyAbove source before body name)
    (h' : DirectlyAbove source before body other) : other = name := by
  obtain ⟨_, gap, d, after, hd, hgap, _, rfl⟩ := h
  obtain ⟨_, gap', d', after', hd', hgap', _, hsplit⟩ := h'
  have hbehind : gap ++ 'e' :: (exportConst.tail ++ (name ++ d :: after)) =
      gap' ++ 'e' :: (exportConst.tail ++ (other ++ d' :: after')) := by
    simpa [exportOf, exportConst] using hsplit
  obtain ⟨_, _, hdeclared⟩ := Text.append_cons_inj (p := fun c => !Text.isBlank c) hbehind
    (fun c hc => by simp [hgap c hc]) (fun c hc => by simp [hgap' c hc]) (by decide) (by decide)
  obtain ⟨rfl, _⟩ := Text.append_cons_inj (List.append_cancel_left hdeclared)
    (fun c hc => (hname c hc).2) (fun c hc => (hother c hc).2) hd hd'
  rfl

/-- There is no slash in a declaration. -/
theorem not_mem_slash {name : List Char} {d : Char} (hname : IsName name)
    (hd : delimiter d = true) : '/' ∉ exportOf name ++ [d] := by
  have hexport : '/' ∉ exportConst := by decide
  rw [exportOf, List.mem_append, List.mem_append, List.mem_singleton]
  rintro ((hmem | hmem) | rfl)
  · exact hexport hmem
  · exact (hname _ hmem).1 rfl
  · cases hd

/-- A comment that is read in front of a declaration ends there. -/
theorem exists_lead_of_bodies {name lead body : List Char} {d : Char} {others : List (List Char)}
    (hname : IsName name) (hd : delimiter d = true)
    (h : DocComment.bodies (lead ++ exportOf name ++ [d]) = .ok (body :: others)) :
    ∃ before between, lead = before ++ DocComment.written body ++ between ∧
      DocComment.IsBody body := by
  obtain ⟨before, after, hsplit, hbody⟩ := DocComment.split_of_scan h
  have hend : lead ++ (exportOf name ++ [d]) =
      before ++ ['/', '*', '*'] ++ body ++ ['*'] ++ '/' :: after := by
    simpa [DocComment.written] using hsplit
  obtain ⟨between, hlead, _⟩ := Text.append_eq_append_cons hend (not_mem_slash hname hd)
  exact ⟨before, between, by rw [hlead]; simp [DocComment.written], hbody⟩

/-- If a line ends in front of a declaration, then nothing but this line break stands in between. -/
theorem eq_break_of_lead {start gap between next v : List Char} (hgap : IsGap gap)
    (hnext : ¬ StartsMargin next) (hlead : start ++ between ∈ leadText)
    (h : between ++ 'e' :: v = gap ++ '\n' :: next) : between = gap ++ ['\n'] := by
  obtain ⟨lines, rfl, hlines⟩ := Text.append_cons_eq_append h hgap.not_mem
  cases lines with
  | nil => cases hlines
  | cons c lines =>
    obtain ⟨rfl, rfl⟩ := List.cons.inj hlines
    rw [← List.append_assoc] at hlead
    rcases eq_nil_or_startsMargin (marginLines_of_lead hlead) with
      rfl | ⟨blanks, hblanks, rest, rfl⟩
    · rfl
    · exact absurd ⟨blanks, hblanks, rest ++ 'e' :: v, by simp⟩ hnext

/-- The comment of an object is the first in the leftmost match. -/
theorem exists_body_of_objectComment {search : Matcher} {name : String} {source : List Char}
    {comment : DocComment} (hsearch : search.FindsFirst (usualFor name))
    (h : objectComment search usualPattern source name = .ok (some comment)) :
    ∃ front lead d rest body others, FirstMatch source name front lead d rest ∧
      DocComment.bodies (lead ++ exportOf name.toList ++ [d]) = .ok (body :: others) ∧
      comment = DocComment.parse body := by
  rcases objectComment_eq hsearch source with ⟨hnone, _⟩ | ⟨front, lead, d, rest, hmatch, hcomment⟩
  · rw [h] at hnone
    cases hnone
  · rw [h, hmatch.source_eq, commentsIn_middle] at hcomment
    cases hbodies : DocComment.bodies (lead ++ exportOf name.toList ++ [d]) with
    | error offset =>
      rw [hbodies] at hcomment
      cases hcomment
    | ok bodies =>
      rw [hbodies] at hcomment
      cases bodies with
      | nil => cases hcomment
      | cons body others =>
        exact ⟨front, lead, d, rest, body, others, hmatch, hbodies, by cases hcomment; rfl⟩

/-- If nothing stands behind comments on their last line, then the comment of an object stands
directly above its declaration, and above no other. -/
theorem directlyAbove_of_objectComment {search : Matcher} {name : String} {source : List Char}
    {comment : DocComment} (hsearch : search.FindsFirst (usualFor name))
    (hname : IsName name.toList) (hclear : ClearBehindComments name.toList source)
    (h : objectComment search usualPattern source name = .ok (some comment)) :
    ∃ before body, comment = DocComment.parse body ∧
      DirectlyAbove source before body name.toList ∧
      ∀ other, IsName other → DirectlyAbove source before body other → other = name.toList := by
  obtain ⟨front, lead, d, rest, body, others, hmatch, hbodies, rfl⟩ :=
    exists_body_of_objectComment hsearch h
  obtain ⟨before, between, hlead, hbody⟩ := exists_lead_of_bodies hname hmatch.delimiter hbodies
  have hmem : before ++ DocComment.written body ++ between ∈ leadText := by
    rcases hmatch.lead with hnil | hmem
    · rw [hnil] at hlead
      simp [DocComment.written] at hlead
    · rwa [hlead] at hmem
  have hsource : source = front ++ before ++ DocComment.written body ++
      (between ++ exportOf name.toList ++ d :: rest) := by
    rw [hmatch.source_eq, hlead]
    simp
  suffices habove : DirectlyAbove source (front ++ before) body name.toList from
    ⟨front ++ before, body, rfl, habove, fun other hother => habove.name_eq hname hother⟩
  obtain ⟨gap, behind, hafter, hgap, hbehind⟩ := hclear _ _ _ hsource hbody
  have hstart : between ++ 'e' :: (exportConst.tail ++ name.toList ++ d :: rest) =
      gap ++ behind := by
    rw [← hafter]
    simp [exportOf, exportConst]
  rcases hbehind with (rfl | ⟨next, rfl, hnext⟩) | ⟨d', rest', hd', rfl⟩
  · refine absurd ?_ hgap.not_mem
    rw [← List.append_nil gap, ← hstart]
    simp
  · obtain rfl := eq_break_of_lead hgap hnext hmem hstart
    rw [hsource]
    exact hgap.directlyAbove_break hbody hmatch.delimiter
  · rw [hsource, hafter, ← List.append_assoc gap]
    exact hgap.directlyAbove hbody hd'

namespace ClearBehindComments

variable {name : List Char}

/-- A source without slashes has no comment. -/
theorem of_no_slash {source : List Char} (h : '/' ∉ source) :
    ClearBehindComments name source := by
  intro before body after hsplit _
  exact absurd (by simp [hsplit, DocComment.written]) h

/-- No comment starts in a text without slashes. -/
theorem append {front source : List Char} (hfront : '/' ∉ front)
    (h : ClearBehindComments name source) : ClearBehindComments name (front ++ source) := by
  intro before body after hsplit hbody
  have hopening : before ++ '/' :: ('*' :: '*' :: body ++ ['*', '/'] ++ after) = front ++ source := by
    simp [hsplit, DocComment.written]
  obtain ⟨between, rfl, hsource⟩ := Text.append_cons_eq_append hopening hfront
  exact h between body after (by simp [hsource, DocComment.written]) hbody

/-- A comment without slashes may stand in front, if it ends its line. -/
theorem cons {body next : List Char} (hslash : '/' ∉ body) (hmargin : ¬ StartsMargin next)
    (h : ClearBehindComments name next) :
    ClearBehindComments name (DocComment.written body ++ '\n' :: next) := by
  intro before body' after hsplit hbody
  rcases DocComment.written_append_cases hslash (by simp) hbody.closed hsplit with
    ⟨rfl, rfl, rfl⟩ | ⟨between, rfl, hnext⟩
  · exact ⟨[], _, rfl, by simp [IsGap], .inl (.inr ⟨next, rfl, hmargin⟩)⟩
  · have hbreak : ClearBehindComments name (['\n'] ++ next) := append (by decide) h
    exact hbreak between body' after hnext hbody

end ClearBehindComments

/-- Two declarations, each with its comment on the line above. -/
def twoComments : List Char :=
  ("/** @class .a */\nexport const card = {};\n\n" ++
    "/** @class .b */\nexport const tab = {};\n").toList

theorem directlyAbove_of_objectComment_neighbours :
    (∃ before body, ⟨[("@class", ".a")]⟩ = DocComment.parse body ∧
      DirectlyAbove twoComments before body "card".toList ∧
      ∀ other, IsName other → DirectlyAbove twoComments before body other →
        other = "card".toList) ∧
    ∃ before body, ⟨[("@class", ".b")]⟩ = DocComment.parse body ∧
      DirectlyAbove twoComments before body "tab".toList ∧
      ∀ other, IsName other → DirectlyAbove twoComments before body other →
        other = "tab".toList := by
  have hsplit : twoComments = DocComment.written " @class .a ".toList ++
      '\n' :: ("export const card = {};\n\n".toList ++ (DocComment.written " @class .b ".toList ++
        '\n' :: "export const tab = {};\n".toList)) := by
    decide +kernel
  have hclear : ∀ name, ClearBehindComments name twoComments := by
    intro name
    have htab : ClearBehindComments name (DocComment.written " @class .b ".toList ++
        '\n' :: "export const tab = {};\n".toList) :=
      .cons (by decide +kernel) (not_startsMargin_cons (by decide) (by decide) _)
        (.of_no_slash (by decide +kernel))
    rw [hsplit]
    exact .cons (by decide +kernel) (not_startsMargin_cons (by decide) (by decide) _)
      (.append (by decide +kernel) htab)
  exact ⟨directlyAbove_of_objectComment (findsFirst_searchPattern (by decide +kernel))
      (by decide +kernel) (hclear _) (by decide +kernel),
    directlyAbove_of_objectComment (findsFirst_searchPattern (by decide +kernel))
      (by decide +kernel) (hclear _) (by decide +kernel)⟩

/-- With a declaration behind the comment on its line, the comment of one object is read as that of
the next. -/
theorem objectComment_of_neighbour :
    DocComment.bodies "/** @class .a */ export const a = {};\nexport const b = {};\n".toList =
        .ok [" @class .a ".toList] ∧
      objectComment searchPattern usualPattern
        "/** @class .a */ export const a = {};\nexport const b = {};\n".toList "b" =
          .ok (some ⟨[("@class", ".a")]⟩) ∧
      ¬ ∃ before body, DirectlyAbove
        "/** @class .a */ export const a = {};\nexport const b = {};\n".toList before body
        "b".toList := by
  refine ⟨by decide +kernel, by decide +kernel, ?_⟩
  rintro ⟨before, body, habove⟩
  have hbody := habove.1
  obtain ⟨_, gap, d, after, _, _, _, hsplit⟩ := id habove
  have hsource : DocComment.written " @class .a ".toList ++
      " export const a = {};\nexport const b = {};\n".toList =
        before ++ DocComment.written body ++ (gap ++ exportOf "b".toList ++ d :: after) := by
    simpa [DocComment.written] using hsplit
  have hslash : '/' ∉ " export const a = {};\nexport const b = {};\n".toList := by decide +kernel
  obtain ⟨rfl, rfl, _⟩ | ⟨between, _, hnext⟩ :=
    DocComment.written_append_cases (by decide +kernel) (by decide) hbody.closed hsource
  case inr =>
    rw [hnext] at hslash
    simp [DocComment.written] at hslash
  have hfirst : DirectlyAbove
      "/** @class .a */ export const a = {};\nexport const b = {};\n".toList []
      " @class .a ".toList "a".toList :=
    ⟨hbody, [' '], ' ', "= {};\nexport const b = {};\n".toList, rfl,
      fun c hc => by rw [List.mem_singleton.1 hc]; rfl, by decide, rfl⟩
  have hname := habove.name_eq (by decide +kernel)
    (by decide +kernel) hfirst
  revert hname
  decide +kernel

end StyleObjects
