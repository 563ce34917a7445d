import StyleObjects.Extract
import StyleObjects.Proofs.SourceComments

/-!
# Tags among the words of a comment

What is read from a comment, in terms of its words: a tag occurs if some word opens it, its value is
made of the words behind the first one that does, up to the next tag, and it has no value if another
tag or the end of the comment follows at once.

Main results:

- `has_parse_iff`: whether a tag occurs.
- `value?_parse_iff`: which value is read.
- `tagValue_eq_error_iff`: when a tag is reported.
- `fileConfig_eq_some_iff`: the comment for the whole file is the first one with the config tag.
- `objectComment_eq_some_iff`: that of an object is the first one in the range of its declaration.
-/

namespace StyleObjects

/-! ## Steps that may fail -/

section Steps

variable {ε α β : Type} {x : Except ε α} {f : α → Except ε β}

/-- Two steps succeed together if each does. -/
theorem bind_eq_ok_iff {b : β} : (x >>= f) = .ok b ↔ ∃ a, x = .ok a ∧ f a = .ok b := by
  cases x <;> simp [bind, Except.bind]

/-- Two steps fail together with the error of the first that fails. -/
theorem bind_eq_error_iff {e : ε} :
    (x >>= f) = .error e ↔ x = .error e ∨ ∃ a, x = .ok a ∧ f a = .error e := by
  cases x <;> simp [bind, Except.bind]

end Steps

namespace DocComment

/-! ## Words that open tags -/

/-- Whether a word opens a tag. -/
def Opens (tag : String) (w : List Char) : Prop :=
  isTag w = true ∧ sameTag (String.ofList w) tag = true

/-- Whether a tag occurs in the body of a comment. -/
def Carries (tag : String) (body : List Char) : Prop :=
  ∃ w ∈ words body, Opens tag w

/-- Whether a tag occurs in the body of a comment, and for the first time right in front of another
tag or at the end. -/
def LacksValue (tag : String) (body : List Char) : Prop :=
  ∃ before w after, words body = before ++ w :: after ∧ Opens tag w ∧
    (∀ u ∈ before, ¬ Opens tag u) ∧ ∀ u ∈ after.head?, isTag u = true

/-- The words up to the first tag. -/
def valueWords (ws : List (List Char)) : List (List Char) :=
  ws.takeWhile fun w => !isTag w

/-- The value of a tag goes up to the next tag. -/
theorem split_fst (ws : List (List Char)) : (split ws).1 = valueWords ws := by
  induction ws with
  | nil => rfl
  | cons w ws ih =>
    unfold valueWords at ih ⊢
    cases hw : isTag w <;> simp [split, hw, ih]

/-- A word that opens a tag is a tag with the words behind it, any other is passed over. -/
theorem tagsOf_cons (w : List Char) (ws : List (List Char)) :
    tagsOf (w :: ws) = if isTag w then (w, valueWords ws) :: tagsOf ws else tagsOf ws := by
  rw [← split_fst]
  cases hw : isTag w <;> simp [tagsOf, split, hw]

/-- The tags are the words that open one, in order. -/
theorem map_fst_tagsOf (ws : List (List Char)) : (tagsOf ws).map (·.1) = ws.filter isTag := by
  induction ws with
  | nil => rfl
  | cons w ws ih => cases hw : isTag w <;> simp [tagsOf_cons, hw, ih]

/-- The first tag of a name that is found is opened by the first word that opens it. -/
theorem find?_tagsOf_iff {tag : String} {ws : List (List Char)} {t : List Char × List (List Char)} :
    (tagsOf ws).find? (fun t => sameTag (String.ofList t.1) tag) = some t ↔
      ∃ before after, ws = before ++ t.1 :: after ∧ Opens tag t.1 ∧
        (∀ u ∈ before, ¬ Opens tag u) ∧ t.2 = valueWords after := by
  induction ws with
  | nil => simp [tagsOf, split]
  | cons w ws ih =>
    by_cases hopens : Opens tag w
    · have hfound : (tagsOf (w :: ws)).find? (fun t => sameTag (String.ofList t.1) tag) =
          some (w, valueWords ws) := by
        rw [tagsOf_cons, if_pos hopens.1]
        exact List.find?_cons_of_pos hopens.2
      rw [hfound]
      constructor
      · intro h
        obtain rfl := Option.some.inj h
        exact ⟨[], ws, rfl, hopens, by simp, rfl⟩
      · rintro ⟨before, after, hsplit, _, hbefore, hvalue⟩
        cases before with
        | nil =>
          obtain ⟨rfl, rfl⟩ := List.cons.inj hsplit
          rw [← hvalue]
        | cons u before =>
          obtain ⟨rfl, _⟩ := List.cons.inj hsplit
          exact absurd hopens (hbefore w List.mem_cons_self)
    · have hpass : (tagsOf (w :: ws)).find? (fun t => sameTag (String.ofList t.1) tag) =
          (tagsOf ws).find? fun t => sameTag (String.ofList t.1) tag := by
        rw [tagsOf_cons]
        split
        · rename_i hw
          exact List.find?_cons_of_neg fun hsame => hopens ⟨hw, hsame⟩
        · rfl
      rw [hpass, ih]
      constructor
      · rintro ⟨before, after, rfl, hfirst, hbefore, hvalue⟩
        exact ⟨w :: before, after, rfl, hfirst, List.forall_mem_cons.2 ⟨hopens, hbefore⟩, hvalue⟩
      · rintro ⟨before, after, hsplit, hfirst, hbefore, hvalue⟩
        cases before with
        | nil =>
          obtain ⟨rfl, _⟩ := List.cons.inj hsplit
          exact absurd hfirst hopens
        | cons u before =>
          obtain ⟨rfl, rfl⟩ := List.cons.inj hsplit
          exact ⟨before, after, rfl, hfirst, (List.forall_mem_cons.1 hbefore).2, hvalue⟩

/-! ## Reading -/

variable {tag : String} {body : List Char}

/-- Whether a tag occurs. -/
theorem has_parse_iff : (parse body).has tag = true ↔ Carries tag body := by
  have hany : (parse body).has tag =
      ((tagsOf (words body)).map (·.1)).any fun w => sameTag (String.ofList w) tag := by
    rw [has, parse, List.any_map, List.any_map]
    rfl
  rw [hany, map_fst_tagsOf]
  simp [Carries, Opens]

/-- The value of a tag is made of the words behind the first one that opens it. -/
theorem value?_parse_iff {v : String} :
    (parse body).value? tag = some v ↔
      ∃ before w after, words body = before ++ w :: after ∧ Opens tag w ∧
        (∀ u ∈ before, ¬ Opens tag u) ∧
        v = String.ofList ([' '].intercalate (valueWords after)) := by
  rw [value?, parse, List.find?_map, Option.map_map, Option.map_eq_some_iff]
  constructor
  · rintro ⟨t, ht, rfl⟩
    obtain ⟨before, after, hsplit, hopens, hbefore, hvalue⟩ := find?_tagsOf_iff.1 ht
    exact ⟨before, t.1, after, hsplit, hopens, hbefore, by rw [← hvalue]; rfl⟩
  · rintro ⟨before, w, after, hsplit, hopens, hbefore, rfl⟩
    exact ⟨(w, valueWords after), find?_tagsOf_iff.2 ⟨before, after, hsplit, hopens, hbefore, rfl⟩,
      rfl⟩

/-- The words of a body are words. -/
theorem isWord_of_mem_words {w : List Char} (h : w ∈ words body) : Text.IsWord w := by
  obtain ⟨line, _, hw⟩ := List.mem_flatMap.1 h
  exact Text.mem_words hw

/-- The words of a value are words, and none of them opens a tag. -/
theorem mem_valueWords {before after : List (List Char)} {w : List Char}
    (h : words body = before ++ w :: after) :
    ∀ v ∈ valueWords after, Text.IsWord v ∧ isTag v = false := by
  intro v hv
  have hmem : v ∈ words body := by
    rw [h]
    exact List.mem_append_right _ (List.mem_cons_of_mem _ ((List.takeWhile_subset _) hv))
  have hno := List.all_eq_true.1 List.all_takeWhile v hv
  exact ⟨isWord_of_mem_words hmem, by simpa using hno⟩

end DocComment

/-- Words that are joined by single spaces are read back. -/
theorem Text.words_intercalate {ws : List (List Char)} (h : ∀ w ∈ ws, IsWord w) :
    words ([' '].intercalate ws) = ws := by
  cases ws with
  | nil => rfl
  | cons w ws =>
    have hspaced : spaced (w :: ws) = ' ' :: [' '].intercalate (w :: ws) := by
      induction ws generalizing w with
      | nil => simp [spaced]
      | cons v ws ih =>
        have hrest := ih v fun u hu => h u (List.mem_cons_of_mem _ hu)
        rw [spaced, List.flatMap_cons, ← spaced, hrest]
        simp
    have hread := words_spaced h
    rwa [hspaced, words_cons_blank rfl] at hread

namespace DocComment

variable {tag : String} {body : List Char}

/-- The value that is read is empty if the tag lacks a value. -/
theorem value?_parse_eq_empty : (parse body).value? tag = some "" ↔ LacksValue tag body := by
  rw [value?_parse_iff]
  refine exists_congr fun before => exists_congr fun w => exists_congr fun after =>
    and_congr_right fun hwords => and_congr_right fun _ => and_congr_right fun _ => ?_
  have hnil : valueWords after = [] ↔ ∀ u ∈ after.head?, isTag u = true := by
    cases after <;> simp [valueWords, List.takeWhile_cons]
  rw [← hnil]
  constructor
  · intro hempty
    have hjoined : [' '].intercalate (valueWords after) = [] := by
      simpa using (congrArg String.toList hempty).symm
    rw [← Text.words_intercalate fun v hv => (mem_valueWords hwords v hv).1, hjoined]
    rfl
  · intro hnone
    rw [hnone]
    rfl

end DocComment

open DocComment

/-! ## Values of tags -/

/-- A tag is reported if it lacks a value. -/
theorem tagValue_eq_error_iff {tag : String} {body : List Char} {block : CommentBlock}
    {e : ExtractError} :
    tagValue (parse body) tag block = .error e ↔
      LacksValue tag body ∧ e = .missingValue block tag := by
  rw [← value?_parse_eq_empty]
  unfold tagValue
  split
  · rename_i hempty
    simp [hempty, throw, throwThe, MonadExceptOf.throw, eq_comm]
  · rename_i hvalue
    simpa [pure, Except.pure] using fun hempty => absurd hempty hvalue

/-- A value that is read is the value of the tag. -/
theorem value?_of_tagValue {c : DocComment} {tag : String} {block : CommentBlock}
    {value : Option String} (h : tagValue c tag block = .ok value) : c.value? tag = value := by
  unfold tagValue at h
  split at h
  · cases h
  · exact Except.ok.inj h

/-! ## Comments with settings -/

/-- The whole range of a source is its text. -/
theorem Range.text_whole (source : List Char) : Range.text ⟨0, source.length⟩ source = source := by
  simp [Range.text]

/-- Comments are read from a range exactly if it closes all of them. -/
theorem commentsIn_eq_ok_iff {source : List Char} {range : Range} {block : CommentBlock}
    {comments : List DocComment} :
    commentsIn source range block = .ok comments ↔
      ∃ found, HasComments (range.text source) found ∧ comments = found.map parse := by
  simp only [← bodies_eq_ok_iff]
  unfold commentsIn
  cases bodies (range.text source) with
  | ok found => simp [pure, Except.pure, eq_comm]
  | error offset => simp [throw, throwThe, MonadExceptOf.throw]

/-- Whether a body is that of the first doc comment with the config tag in a source. -/
def ConfigComment (tags : Tags) (source body : List Char) : Prop :=
  ∃ before after, HasComments source (before ++ body :: after) ∧
    (∀ b ∈ before, ¬ Carries tags.config b) ∧ Carries tags.config body

/-- Whether a body is that of the first doc comment in the range of the declaration of an object. -/
def OwnComment (search : Matcher) (s : ExtractSettings) (source : List Char) (name : String)
    (body : List Char) : Prop :=
  ∃ range others,
    search (declarationPattern s.effectivePattern name).toList source = .found range ∧
      HasComments (range.text source) (body :: others)

/-- The settings of the whole file are read from the first doc comment with the config tag. -/
theorem fileConfig_eq_some_iff {tags : Tags} {source : List Char} {c : DocComment} :
    fileConfig tags source = .ok (some c) ↔
      ∃ body, ConfigComment tags source body ∧ c = parse body := by
  unfold fileConfig
  simp only [bind_eq_ok_iff, commentsIn_eq_ok_iff, Range.text_whole]
  constructor
  · rintro ⟨_, ⟨found, hfound, rfl⟩, hread⟩
    have hfind : (found.map parse).find? (·.has tags.config) = some c := Except.ok.inj hread
    rw [List.find?_map, Option.map_eq_some_iff] at hfind
    obtain ⟨body, hbody, rfl⟩ := hfind
    obtain ⟨hcarries, before, after, rfl, hbefore⟩ := List.find?_eq_some_iff_append.1 hbody
    refine ⟨body, ⟨before, after, hfound, fun b hb => ?_, has_parse_iff.1 hcarries⟩, rfl⟩
    rw [← has_parse_iff]
    simpa using hbefore b hb
  · rintro ⟨body, ⟨before, after, hfound, hbefore, hcarries⟩, rfl⟩
    refine ⟨_, ⟨_, hfound, rfl⟩, congrArg Except.ok ?_⟩
    rw [List.find?_map, Option.map_eq_some_iff]
    refine ⟨body, List.find?_eq_some_iff_append.2
      ⟨has_parse_iff.2 hcarries, before, after, rfl, fun b hb => ?_⟩, rfl⟩
    simpa [← has_parse_iff] using hbefore b hb

/-! ## Comments of objects -/

section Objects

variable {search : Matcher} {pattern name : String} {source : List Char}

/-- A pattern that is none is an error. -/
theorem objectComment_notPattern
    (h : search (declarationPattern pattern name).toList source = .notPattern) :
    objectComment search pattern source name =
      .error (.invalidPattern (.object name) (declarationPattern pattern name)) := by
  unfold objectComment
  simp only [h]
  rfl

/-- An object whose declaration is not found has no comment. -/
theorem objectComment_notFound
    (h : search (declarationPattern pattern name).toList source = .notFound) :
    objectComment search pattern source name = .ok none := by
  unfold objectComment
  simp only [h]
  rfl

/-- The comment of an object is the first one in the range that is found. -/
theorem objectComment_found {range : Range}
    (h : search (declarationPattern pattern name).toList source = .found range) :
    objectComment search pattern source name =
      (commentsIn source range (.object name) >>= fun comments => pure comments.head?) := by
  unfold objectComment
  simp only [h]

/-- The comment of an object is the first one in the range of its declaration. -/
theorem objectComment_eq_some_iff {s : ExtractSettings} {c : DocComment} :
    objectComment search s.effectivePattern source name = .ok (some c) ↔
      ∃ body, OwnComment search s source name body ∧ c = parse body := by
  unfold OwnComment
  cases hsearch : search (declarationPattern s.effectivePattern name).toList source with
  | notPattern => simp [objectComment_notPattern hsearch]
  | notFound => simp [objectComment_notFound hsearch]
  | found range =>
    have hcomments : objectComment search s.effectivePattern source name = .ok (some c) ↔
        ∃ found, HasComments (range.text source) found ∧ (found.map parse).head? = some c := by
      rw [objectComment_found hsearch, bind_eq_ok_iff]
      simp only [commentsIn_eq_ok_iff]
      constructor
      · rintro ⟨_, ⟨found, hfound, rfl⟩, hhead⟩
        exact ⟨found, hfound, Except.ok.inj hhead⟩
      · rintro ⟨found, hfound, hhead⟩
        exact ⟨_, ⟨found, hfound, rfl⟩, congrArg Except.ok hhead⟩
    rw [hcomments]
    constructor
    · rintro ⟨found, hfound, hhead⟩
      cases found with
      | nil => cases hhead
      | cons body others =>
        exact ⟨body, ⟨range, others, rfl, hfound⟩, (Option.some.inj hhead).symm⟩
    · rintro ⟨body, ⟨_, others, hrange, hfound⟩, rfl⟩
      obtain rfl := SearchResult.found.inj hrange
      exact ⟨body :: others, hfound, rfl⟩

/-- All comments of an object read the same. -/
theorem OwnComment.parse_eq {s : ExtractSettings} {body body' : List Char}
    (h : OwnComment search s source name body) (h' : OwnComment search s source name body') :
    parse body = parse body' := by
  have hread := objectComment_eq_some_iff.2 ⟨body, h, rfl⟩
  have hread' := objectComment_eq_some_iff.2 ⟨body', h', rfl⟩
  exact Option.some.inj (Except.ok.inj (hread.symm.trans hread'))

end Objects

end StyleObjects
