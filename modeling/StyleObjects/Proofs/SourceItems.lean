import StyleObjects.Proofs.ObjectComment
import StyleObjects.Proofs.TagLayout

/-!
# Sources made of items

A source is made of items in any order: objects, each perhaps with a comment of tags above its
declaration, and comments with the settings of the whole file.  Whatever stands before and after,
the comment of an object is the one that was written above it.

Main results:

- `fileConfig_sourceText`: the settings of the whole file are those of the first comment for them.
- `exists_item_of_declaration`: a declaration that occurs in the source is that of an item.
- `FirstMatch.eq_of_items`: the leftmost match starts at the comment of the object.
- `objectComment_sourceText`: the comment of an object is the one above its declaration.
-/

namespace StyleObjects

open Pattern

/-! ## Items -/

/-- An item of a source. -/
inductive SourceItem where
  /-- An object, perhaps with a comment. -/
  | object (name : String) (comment : Option TagComment)
  /-- The settings of the whole file. -/
  | config (comment : TagComment)

namespace SourceItem

/-- The comment of an item. -/
def comment? : SourceItem → Option TagComment
  | object _ comment => comment
  | config comment => some comment

/-- The name of an object. -/
def name? : SourceItem → Option String
  | object name _ => some name
  | config _ => none

/-- A comment with the line break behind it. -/
def commentText (tags : Tags) (c : Option TagComment) : List Char :=
  c.elim [] fun c => c.text tags ++ ['\n']

/-- A declaration and an empty line. -/
def declarationLine (name : List Char) : List Char :=
  exportOf name ++ [' ', '=', ' ', '{', '}', ';', '\n', '\n']

/-- What follows the comment of an item. -/
def behind : SourceItem → List Char
  | object name _ => declarationLine name.toList
  | config _ => ['\n']

/-- The text of an item. -/
def text (tags : Tags) (i : SourceItem) : List Char :=
  commentText tags i.comment? ++ i.behind

end SourceItem

open SourceItem

/-- The text of some items, one after the other. -/
def sourceText (tags : Tags) (items : List SourceItem) : List Char :=
  items.flatMap (·.text tags)

/-- The comment of an object. -/
def commentOf (items : List SourceItem) (name : String) : Option TagComment :=
  (items.find? (·.name? = some name)).bind (·.comment?)

/-- The settings of the whole file. -/
def configOf (items : List SourceItem) : Option TagComment :=
  items.findSome? fun
    | object _ _ => none
    | config c => some c

/-- Whether the items can be told apart, and those that hold for the whole file say so. -/
structure WellTagged (tags : Tags) (items : List SourceItem) : Prop where
  isName : ∀ i ∈ items, ∀ name ∈ i.name?, IsName name.toList
  distinct : (items.filterMap (·.name?)).Nodup
  valid : ∀ i ∈ items, ∀ c ∈ i.comment?, c.Valid tags
  config : ∀ i ∈ items, ∀ c ∈ i.comment?, c.hasKind .config = i.name?.isNone

instance (tags : Tags) (items : List SourceItem) : Decidable (WellTagged tags items) :=
  decidable_of_iff ((∀ i ∈ items, ∀ name ∈ i.name?, IsName name.toList) ∧
      (items.filterMap (·.name?)).Nodup ∧ (∀ i ∈ items, ∀ c ∈ i.comment?, c.Valid tags) ∧
      ∀ i ∈ items, ∀ c ∈ i.comment?, c.hasKind .config = i.name?.isNone)
    ⟨fun ⟨hname, hdistinct, hvalid, hconfig⟩ => ⟨hname, hdistinct, hvalid, hconfig⟩,
      fun h => ⟨h.isName, h.distinct, h.valid, h.config⟩⟩

variable {tags : Tags} {items before after : List SourceItem}

namespace WellTagged

/-- A source that is well tagged is so without its first item. -/
theorem of_cons {i : SourceItem} (h : WellTagged tags (i :: items)) : WellTagged tags items where
  isName := fun j hj => h.isName j (List.mem_cons_of_mem _ hj)
  distinct := by
    have hdistinct := h.distinct
    cases i with
    | object name c => exact (List.nodup_cons.1 hdistinct).2
    | config c => exact hdistinct
  valid := fun j hj => h.valid j (List.mem_cons_of_mem _ hj)
  config := fun j hj => h.config j (List.mem_cons_of_mem _ hj)

/-- No item in front of an object has its name. -/
theorem not_mem_before {name : String} {c c' : Option TagComment}
    (h : WellTagged tags (before ++ object name c :: after)) : object name c' ∉ before := by
  intro hmem
  have hdistinct := h.distinct
  rw [List.filterMap_append, List.nodup_append] at hdistinct
  exact hdistinct.2.2 name (List.mem_filterMap.2 ⟨_, hmem, rfl⟩) name
    (List.mem_filterMap.2 ⟨object name c, List.mem_cons_self, rfl⟩) rfl

/-- An object has one place among the items. -/
theorem before_eq {before' after' : List SourceItem} {name : String} {c c' : Option TagComment}
    (h : WellTagged tags (before ++ object name c :: after))
    (hsplit : before ++ object name c :: after = before' ++ object name c' :: after') :
    before = before' ∧ c = c' := by
  have h' := h
  rw [hsplit] at h'
  rcases List.append_eq_append_iff.1 hsplit with ⟨w, rfl, hw⟩ | ⟨w, rfl, hw⟩
  · cases w with
    | nil => exact ⟨by simp, by injection hw with hw; injection hw⟩
    | cons i w =>
      obtain ⟨rfl, _⟩ := List.cons.inj hw
      have hnew : object name c ∉ before ++ object name c :: w := h'.not_mem_before
      exact absurd (by simp) hnew
  · cases w with
    | nil => exact ⟨by simp, by injection hw with hw; injection hw with _ hw; exact hw.symm⟩
    | cons i w =>
      obtain ⟨rfl, _⟩ := List.cons.inj hw
      have hnew : object name c' ∉ before' ++ object name c' :: w := h.not_mem_before
      exact absurd (by simp) hnew

end WellTagged

/-- An item is written as its comment and what stands behind it. -/
theorem sourceText_cons (i : SourceItem) :
    sourceText tags (i :: items) =
      commentText tags i.comment? ++ (i.behind ++ sourceText tags items) :=
  List.append_assoc _ _ _

/-- Items are written one after the other. -/
theorem sourceText_append (more : List SourceItem) :
    sourceText tags (items ++ more) = sourceText tags items ++ sourceText tags more :=
  List.flatMap_append

/-- The parts of a source around the start of a declaration. -/
theorem sourceText_around (tags : Tags) (before after : List SourceItem) (name : String)
    (c : Option TagComment) :
    sourceText tags (before ++ object name c :: after) =
      sourceText tags before ++ (commentText tags c ++ exportOf name.toList ++ [' ']) ++
        (['=', ' ', '{', '}', ';', '\n', '\n'] ++ sourceText tags after) := by
  simp [sourceText_append, sourceText_cons, comment?, behind, declarationLine]

/-! ## Comments in order -/

/-- There is no slash outside of the comments. -/
theorem not_mem_slash_behind {i : SourceItem} (h : ∀ name ∈ i.name?, IsName name.toList) :
    '/' ∉ i.behind := by
  cases i with
  | object name c =>
    have hname : '/' ∉ name.toList := fun hmem => (h name rfl _ hmem).1 rfl
    simp [behind, declarationLine, exportOf, exportConst, hname]
  | config c => simp [behind]

/-- A comment in front of a text is the first one. -/
theorem scan_commentText (htags : tags.Distinguished) {c : Option TagComment}
    (hc : ∀ d ∈ c, d.Valid tags) (offset : Nat) (v : List Char) :
    DocComment.scan offset .outside (commentText tags c ++ v) =
      (DocComment.scan (offset + (commentText tags c).length) .outside v).map
        (c.toList.map (·.body tags) ++ ·) := by
  cases c with
  | none =>
    have hempty : (DocComment.scan offset .outside v).map (([] : List (List Char)) ++ ·) =
        DocComment.scan offset .outside v := by
      cases DocComment.scan offset .outside v <;> rfl
    exact hempty.symm
  | some c =>
    have hbody := TagComment.isBody_body htags (hc c rfl)
    have hbreak := DocComment.scan_skip (u := ['\n']) (by decide)
      (offset + (DocComment.written (c.body tags)).length) v
    have hstart : commentText tags (some c) ++ v =
        DocComment.written (c.body tags) ++ (['\n'] ++ v) :=
      List.append_assoc _ _ _
    rw [hstart, DocComment.scan_written hbody, hbreak]
    simp [commentText, TagComment.text, Nat.add_assoc]

/-- The doc comments of a source are those of its items, in order. -/
theorem scan_sourceText (htags : tags.Distinguished) (h : WellTagged tags items) (offset : Nat) :
    DocComment.scan offset .outside (sourceText tags items) =
      .ok ((items.filterMap (·.comment?)).map (·.body tags)) := by
  induction items generalizing offset with
  | nil => rfl
  | cons i items ih =>
    have hslash : '/' ∉ i.behind := not_mem_slash_behind (h.isName i List.mem_cons_self)
    rw [sourceText_cons, scan_commentText htags (h.valid i List.mem_cons_self),
      DocComment.scan_skip hslash, ih h.of_cons]
    cases hcomment : i.comment? with
    | none => simp [hcomment, Except.map]
    | some c => simp [hcomment, Except.map]

/-- Among the comments of the items, the first one for the whole file is found. -/
theorem find?_config (htags : tags.Distinguished) (h : WellTagged tags items) :
    (((items.filterMap (·.comment?)).map (·.body tags)).map DocComment.parse).find?
        (·.has tags.config) =
      (configOf items).map fun c => DocComment.parse (c.body tags) := by
  induction items with
  | nil => rfl
  | cons i items ih =>
    have hrest := ih h.of_cons
    have hhas {c : TagComment} (hc : i.comment? = some c) :
        (DocComment.parse (c.body tags)).has tags.config = c.hasKind .config :=
      TagComment.has_parse_body htags (h.valid i List.mem_cons_self c hc) .config
    cases i with
    | object name comment =>
      cases comment with
      | none => exact hrest
      | some c =>
        have hmiss := (hhas rfl).trans (h.config _ List.mem_cons_self c rfl)
        simp only [comment?, List.filterMap_cons, List.map_cons, List.find?_cons, hmiss]
        exact hrest
    | config c =>
      have hhit := (hhas rfl).trans (h.config _ List.mem_cons_self c rfl)
      simp only [comment?, List.filterMap_cons, List.map_cons, List.find?_cons, hhit]
      rfl

/-- The settings of the whole file are those of the first comment that is meant for them. -/
theorem fileConfig_sourceText (htags : tags.Distinguished) (h : WellTagged tags items) :
    fileConfig tags (sourceText tags items) =
      .ok ((configOf items).map fun c => DocComment.parse (c.body tags)) := by
  have hcomments : commentsIn (sourceText tags items) ⟨0, (sourceText tags items).length⟩ .config =
      .ok (((items.filterMap (·.comment?)).map (·.body tags)).map DocComment.parse) := by
    have hmiddle := commentsIn_middle [] (sourceText tags items) [] .config
    rw [DocComment.bodies, scan_sourceText htags h] at hmiddle
    simpa using hmiddle
  rw [fileConfig, hcomments, ← find?_config htags h]
  rfl

/-! ## Places of declarations -/

/-- The start of a declaration does not occur among the comments of items. -/
theorem exists_behind_comment {c : Option TagComment} (hc : ∀ d ∈ c, d.Valid tags)
    {front y z : List Char} (h : commentText tags c ++ z = front ++ exportConst ++ y) :
    ∃ rest, front = commentText tags c ++ rest ∧ z = rest ++ exportConst ++ y := by
  cases c with
  | none => exact ⟨front, rfl, h⟩
  | some c =>
    have hsplit : front ++ exportConst ++ y = c.text tags ++ '\n' :: z := by
      rw [← h]
      simp [commentText]
    rcases Text.append_eq_append_cons_cases hsplit (by decide) (by decide) with
      ⟨rest, htext, _⟩ | ⟨rest, hfront, hz⟩
    · have hoccurs : declarationWords <:+: c.text tags :=
        ⟨front, ' ' :: rest, by rw [htext]; simp [declarationWords, exportConst]⟩
      exact absurd hoccurs (TagComment.not_declares_text (hc c rfl))
    · exact ⟨rest, by simp [hfront, commentText], hz⟩

/-- Behind its first character, a declaration does not hold the start of another. -/
theorem not_infix_declaration {name : List Char} (hname : IsName name) :
    ¬ exportConst <:+: exportConst.tail ++ name ++ [' ', '=', ' ', '{', '}', ';'] := by
  have hblank : ' ' ∉ name := fun hmem => by
    have hdelimiter := (hname _ hmem).2
    revert hdelimiter
    decide
  intro hoccurs
  have hsplit : exportConst.tail ++ name ++ [' ', '=', ' ', '{', '}', ';'] =
      exportConst.tail ++ name ++ [' '] ++ '=' :: [' ', '{', '}', ';'] := by
    simp
  rw [hsplit] at hoccurs
  rcases Text.infix_append_cons (by decide) (by decide) hoccurs with hfirst | hrest
  · -- The words in front of the name are too short to end with the word that is looked for.
    have hwords : declarationWords <:+: exportConst.tail ++ name :=
      Text.infix_of_infix_concat (by decide) (List.IsInfix.trans ⟨[], [' '], by rfl⟩ hfirst)
    obtain ⟨front, y, hwords⟩ := hwords
    have hstart : front ++ ['e', 'x', 'p', 'o', 'r', 't'] ++
        ' ' :: (['c', 'o', 'n', 's', 't'] ++ y) = ['x', 'p', 'o', 'r', 't'] ++ ' ' :: (['c', 'o', 'n', 's', 't'] ++ ' ' :: name) := by
      simpa [declarationWords, exportConst] using hwords
    rcases Text.append_eq_append_cons_cases hstart (by decide) (by decide) with
      ⟨rest, hshort, _⟩ | ⟨rest, _, hmiddle⟩
    · exact absurd ⟨front, rest, hshort.symm⟩
        (by decide : ¬ ['e', 'x', 'p', 'o', 'r', 't'] <:+: ['x', 'p', 'o', 'r', 't'])
    rcases Text.append_eq_append_cons_cases hmiddle.symm (by decide) (by decide) with
      ⟨rest', hshort, _⟩ | ⟨rest', _, hlast⟩
    · exact absurd ⟨rest, rest', hshort.symm⟩
        (by decide : ¬ ['e', 'x', 'p', 'o', 'r', 't'] <:+: ['c', 'o', 'n', 's', 't'])
    · exact hblank (by rw [hlast]; simp)
  · exact absurd hrest (by decide)

/-- The start of a declaration occurs in a line of one only at its start. -/
theorem exists_behind_declaration {name front y z : List Char} (hname : IsName name)
    (h : declarationLine name ++ z = front ++ exportConst ++ y) :
    front = [] ∨ ∃ rest, front = declarationLine name ++ rest ∧ z = rest ++ exportConst ++ y := by
  cases front with
  | nil => exact .inl rfl
  | cons c front =>
    right
    have hsplit : c :: (front ++ exportConst ++ y) = 'e' :: (exportConst.tail ++ name ++
        [' ', '=', ' ', '{', '}', ';'] ++ '\n' :: '\n' :: z) := by
      rw [← List.cons_append, ← List.cons_append, ← h]
      simp [declarationLine, exportOf, exportConst]
    obtain ⟨rfl, htail⟩ := List.cons.inj hsplit
    rcases Text.append_eq_append_cons_cases htail (by decide) (by decide) with
      ⟨rest, hline, _⟩ | ⟨rest, rfl, hrest⟩
    · exact absurd ⟨front, rest, hline.symm⟩ (not_infix_declaration hname)
    · cases rest with
      | nil => cases hrest
      | cons c rest =>
        obtain ⟨rfl, hz⟩ := List.cons.inj hrest
        exact ⟨rest, by simp [declarationLine, exportOf, exportConst], by simpa using hz⟩

/-- A declaration that occurs in a source is that of an item, whose comment stands in front. -/
theorem exists_item_of_declaration (h : WellTagged tags items) {name front rest : List Char}
    {d : Char} (hname : IsName name) (hd : delimiter d = true)
    (hsplit : sourceText tags items = front ++ (exportOf name ++ d :: rest)) :
    ∃ before c after, items = before ++ object (String.ofList name) c :: after ∧
      front = sourceText tags before ++ commentText tags c ∧ d = ' ' := by
  induction items generalizing front with
  | nil => simp [sourceText] at hsplit
  | cons i items ih =>
    have hvalid := h.valid i List.mem_cons_self
    have hstart : commentText tags i.comment? ++ (i.behind ++ sourceText tags items) =
        front ++ exportConst ++ (name ++ d :: rest) := by
      rw [← sourceText_cons, hsplit]
      simp [exportOf]
    obtain ⟨front, rfl, hbehind⟩ := exists_behind_comment hvalid hstart
    -- Behind the rest of this item, the declaration occurs among the other items.
    have hlater {rest' : List Char} (hfront : front = i.behind ++ rest')
        (hrest : sourceText tags items = rest' ++ exportConst ++ (name ++ d :: rest)) :
        ∃ before c after, i :: items = before ++ object (String.ofList name) c :: after ∧
          commentText tags i.comment? ++ front = sourceText tags before ++ commentText tags c ∧
          d = ' ' := by
      obtain ⟨before, c, after, rfl, rfl, hd'⟩ := ih h.of_cons (by simpa [exportOf] using hrest)
      exact ⟨i :: before, c, after, rfl, by simp [hfront, sourceText, text], hd'⟩
    cases i with
    | object other c =>
      have hother := h.isName _ List.mem_cons_self other rfl
      rcases exists_behind_declaration hother hbehind with rfl | ⟨rest', hfront, hrest⟩
      · have hnames : other.toList ++ ' ' :: (['=', ' ', '{', '}', ';', '\n', '\n'] ++
            sourceText tags items) = name ++ d :: rest := by
          simpa [behind, declarationLine, exportOf] using hbehind
        obtain ⟨rfl, rfl, _⟩ := Text.append_cons_inj hnames (fun a ha => (hother a ha).2)
          (fun a ha => (hname a ha).2) (by decide) hd
        exact ⟨[], c, items, by simp, by simp [sourceText, comment?], rfl⟩
      · exact hlater hfront hrest
    | config c =>
      cases front with
      | nil => simp [behind, exportConst] at hbehind
      | cons c' front =>
        obtain ⟨rfl, hrest⟩ := List.cons.inj hbehind
        exact hlater rfl hrest

/-! ## The comment of an object -/

/-- The text of some items ends with an empty line. -/
theorem exists_sourceText_eq (tags : Tags) (hne : items ≠ []) :
    ∃ s, sourceText tags items = s ++ ['\n', '\n'] := by
  obtain ⟨before, i, rfl⟩ := (List.eq_nil_or_concat items).resolve_left hne
  cases i with
  | object name c =>
    refine ⟨sourceText tags before ++ (commentText tags c ++ (exportOf name.toList ++
      [' ', '=', ' ', '{', '}', ';'])), ?_⟩
    simp [sourceText, text, behind, declarationLine, comment?]
  | config c =>
    refine ⟨sourceText tags before ++ c.text tags, ?_⟩
    simp [sourceText, text, behind, commentText, comment?]

/-- A comment is the start that the usual pattern allows, or there is none. -/
theorem commentText_mem (htags : tags.Distinguished) {c : Option TagComment}
    (hc : ∀ d ∈ c, d.Valid tags) : commentText tags c = [] ∨ commentText tags c ∈ leadText := by
  cases c with
  | none => exact .inl rfl
  | some c => exact .inr (TagComment.text_mem_leadText htags (hc c rfl))

/-- What stands in front of a comment of an object does not start a match. -/
theorem eq_nil_of_lead {x t : List Char} {front : List Char}
    (hbefore : sourceText tags before = front ++ x) (hlead : x ++ t = [] ∨ x ++ t ∈ leadText) :
    x = [] := by
  by_contra hx
  have hne : before ≠ [] := by
    rintro rfl
    exact hx (List.append_eq_nil_iff.1 hbefore.symm).2
  obtain ⟨s, hs⟩ := exists_sourceText_eq tags hne
  have hmem : x ++ t ∈ leadText :=
    hlead.resolve_left fun hnil => hx (List.append_eq_nil_iff.1 hnil).1
  have hslash : ∃ y, x = '/' :: y := by
    obtain ⟨line, _, ending, _, lines, _, hsplit⟩ := hmem
    cases x with
    | nil => exact absurd rfl hx
    | cons c x => exact ⟨x, by rw [(List.cons.inj hsplit).1]⟩
  obtain ⟨y, rfl⟩ := hslash
  -- The empty line in front is no line with a margin.
  rw [hbefore] at hs
  rcases List.append_eq_append_iff.1 hs with ⟨w, _, hw⟩ | ⟨w, _, hw⟩
  · have hbreak : w ++ '\n' :: ('\n' :: t) ∈ leadText := by
      rw [hw] at hmem
      simpa using hmem
    rcases eq_nil_or_startsMargin (marginLines_of_lead hbreak) with hnil | hmargin
    · cases hnil
    · exact not_startsMargin_cons (by decide) (by decide) t hmargin
  · have hmem : '/' ∈ ['\n', '\n'] := by
      rw [hw]
      simp
    simp at hmem

/-- The leftmost match starts at the comment of the object, or at its declaration if it has none. -/
theorem FirstMatch.eq_of_items (htags : tags.Distinguished) {name : String}
    {c : Option TagComment} (h : WellTagged tags (before ++ object name c :: after))
    {front lead rest : List Char} {d : Char}
    (hmatch : FirstMatch (sourceText tags (before ++ object name c :: after)) name front lead d
      rest) :
    front = sourceText tags before ∧ lead = commentText tags c ∧ d = ' ' := by
  have hname := h.isName (object name c) (by simp) name rfl
  have hsplit : sourceText tags (before ++ object name c :: after) =
      front ++ lead ++ (exportOf name.toList ++ d :: rest) := by
    simpa using hmatch.source_eq
  obtain ⟨before', c', after', hitems, hstart, rfl⟩ :=
    exists_item_of_declaration h hname hmatch.delimiter hsplit
  rw [String.ofList_toList] at hitems
  obtain ⟨rfl, rfl⟩ := h.before_eq hitems
  have hc : ∀ d ∈ c, d.Valid tags := h.valid (object name c) (by simp)
  have hfirst := hmatch.first (sourceText tags before) (commentText tags c) ' ' _
    (commentText_mem htags hc) rfl (sourceText_around tags before after name c)
  rcases List.append_eq_append_iff.1 hstart with ⟨x, hbefore, rfl⟩ | ⟨x, rfl, hlead⟩
  · obtain rfl := eq_nil_of_lead hbefore hmatch.lead
    exact ⟨by simpa using hbefore.symm, rfl, rfl⟩
  · rw [List.length_append] at hfirst
    obtain rfl : x = [] := List.length_eq_zero_iff.1 (by omega)
    exact ⟨List.append_nil _, hlead.symm, rfl⟩

/-- The comment of an object is the one above its declaration. -/
theorem objectComment_sourceText {search : Matcher} (htags : tags.Distinguished) {name : String}
    {c : Option TagComment} (h : WellTagged tags items) (hmem : object name c ∈ items)
    (hsearch : search.FindsFirst (usualFor name)) :
    objectComment search usualPattern (sourceText tags items) name =
      .ok (c.map fun c => DocComment.parse (c.body tags)) := by
  obtain ⟨before, after, rfl⟩ := List.append_of_mem hmem
  have hc : ∀ d ∈ c, d.Valid tags := h.valid _ hmem
  rcases objectComment_eq hsearch (sourceText tags (before ++ object name c :: after)) with
    ⟨_, hnone⟩ | ⟨front, lead, d, rest, hmatch, hcomment⟩
  · exact absurd (sourceText_around tags before after name c)
      (hnone (sourceText tags before) (commentText tags c) ' ' _ (commentText_mem htags hc) rfl)
  · obtain ⟨rfl, rfl, rfl⟩ := hmatch.eq_of_items htags h
    have hslash : '/' ∉ exportOf name.toList ++ [' '] :=
      not_mem_slash (h.isName _ hmem name rfl) rfl
    have hbodies : DocComment.bodies (commentText tags c ++ exportOf name.toList ++ [' ']) =
        .ok (c.toList.map (·.body tags)) := by
      have hend := DocComment.scan_skip hslash (0 + (commentText tags c).length) []
      rw [List.append_nil] at hend
      rw [DocComment.bodies, List.append_assoc, scan_commentText htags hc, hend]
      simp [DocComment.scan, Except.map]
    rw [hcomment, hmatch.source_eq, commentsIn_middle, hbodies]
    cases c <;> rfl

end StyleObjects
