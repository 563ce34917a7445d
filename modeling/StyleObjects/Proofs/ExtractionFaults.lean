import Mathlib.Data.List.Basic
import StyleObjects.Proofs.CommentTags

/-!
# Why an extraction fails

An extraction looks for faults in a fixed order: in the pattern, in the comments of the whole
source, in the settings of the whole file, and in the objects by ascending name, where every object
has four faults that are looked for.  It fails if one of them is there, and reports the first.  Each
part of an extraction looks for some of the faults, and the parts are put together one after the
other.

Main results:

- `FailsBy.bind`: a run and the run behind it look for the faults of both.
- `commentsIn_eq_error_iff`: the line of a doc comment that is never closed.
- `failsBy_addObjects`: the faults that are looked for in the objects.
- `extractWith_eq_error_iff`: an extraction fails with the first fault that is there.
-/

namespace StyleObjects

open DocComment

/-! ## Faults in order -/

/-- A fault that is looked for, as the errors that report it. -/
abbrev Fault := ExtractError → Prop

/-- Whether an error reports the first of some faults that is there. -/
def FirstOf (faults : List Fault) (e : ExtractError) : Prop :=
  ∃ before fault after, faults = before ++ fault :: after ∧ fault e ∧
    ∀ earlier ∈ before, ∀ e', ¬ earlier e'

/-- Whether none of some faults is there. -/
def Absent (faults : List Fault) : Prop :=
  ∀ fault ∈ faults, ∀ e, ¬ fault e

/-- Of several faults none is there if the first is not and none of the others is. -/
theorem absent_cons {fault : Fault} {faults : List Fault} :
    Absent (fault :: faults) ↔ (∀ e, ¬ fault e) ∧ Absent faults :=
  List.forall_mem_cons

theorem firstOf_nil (e : ExtractError) : ¬ FirstOf [] e := by
  rintro ⟨before, fault, after, hsplit, _⟩
  simp at hsplit

/-- The first fault of a list is its head, or that of the rest if the head is not there. -/
theorem firstOf_cons {fault : Fault} {faults : List Fault} {e : ExtractError} :
    FirstOf (fault :: faults) e ↔ fault e ∨ (∀ e', ¬ fault e') ∧ FirstOf faults e := by
  constructor
  · rintro ⟨before, found, after, hsplit, hfound, hbefore⟩
    cases before with
    | nil =>
      obtain ⟨rfl, rfl⟩ := List.cons.inj hsplit
      exact .inl hfound
    | cons first before =>
      obtain ⟨rfl, rfl⟩ := List.cons.inj hsplit
      obtain ⟨hfirst, hbefore⟩ := List.forall_mem_cons.1 hbefore
      exact .inr ⟨hfirst, before, found, after, rfl, hfound, hbefore⟩
  · rintro (hfault | ⟨hnone, before, found, after, rfl, hfound, hbefore⟩)
    · exact ⟨[], fault, faults, rfl, hfault, by simp⟩
    · exact ⟨fault :: before, found, after, rfl, hfound, List.forall_mem_cons.2 ⟨hnone, hbefore⟩⟩

/-- The first fault of two lists is that of the first list, or else that of the second. -/
theorem firstOf_append {xs ys : List Fault} {e : ExtractError} :
    FirstOf (xs ++ ys) e ↔ FirstOf xs e ∨ Absent xs ∧ FirstOf ys e := by
  induction xs with
  | nil => simp [firstOf_nil, Absent]
  | cons fault xs ih =>
    rw [List.cons_append, firstOf_cons, firstOf_cons, ih, absent_cons, and_or_left, or_assoc,
      and_assoc]

/-- One of some faults is the first that is there, unless none is. -/
theorem exists_firstOf_iff {faults : List Fault} :
    (∃ e, FirstOf faults e) ↔ ∃ fault ∈ faults, ∃ e, fault e := by
  constructor
  · rintro ⟨e, before, fault, after, rfl, hfault, _⟩
    exact ⟨fault, by simp, e, hfault⟩
  · rintro ⟨fault, hmem, e, hfault⟩
    induction faults with
    | nil => cases hmem
    | cons first faults ih =>
      by_cases hfirst : ∃ e', first e'
      · obtain ⟨e', hfirst⟩ := hfirst
        exact ⟨e', firstOf_cons.2 (.inl hfirst)⟩
      · rcases List.mem_cons.1 hmem with rfl | hmem
        · exact absurd ⟨e, hfault⟩ hfirst
        · obtain ⟨e', hrest⟩ := ih hmem
          exact ⟨e', firstOf_cons.2 (.inr ⟨not_exists.1 hfirst, hrest⟩)⟩

/-- None of some faults is there exactly if there is no first one. -/
theorem absent_iff {faults : List Fault} : Absent faults ↔ ∀ e, ¬ FirstOf faults e := by
  rw [← not_exists, exists_firstOf_iff]
  simp [Absent]

/-- Whether a run fails exactly if one of some faults is there, with the first of them. -/
def FailsBy {α : Type} (faults : List Fault) (x : Except ExtractError α) : Prop :=
  ∀ e, x = .error e ↔ FirstOf faults e

namespace FailsBy

variable {α β : Type} {xs ys : List Fault} {x : Except ExtractError α}

theorem ok (a : α) : FailsBy [] (.ok a : Except ExtractError α) := by
  intro e
  simp [firstOf_nil]

theorem one {fault : Fault} (h : ∀ e, x = .error e ↔ fault e) : FailsBy [fault] x := by
  intro e
  simp [firstOf_cons, firstOf_nil, h]

/-- A run that fails at once reports the first fault. -/
theorem error {fault : Fault} {e : ExtractError} (h : ∀ e', fault e' ↔ e = e')
    (faults : List Fault) : FailsBy (fault :: faults) (.error e : Except ExtractError α) := by
  intro e'
  have hthere : ¬ ∀ e', ¬ fault e' := fun hnone => hnone e ((h e).2 rfl)
  rw [firstOf_cons, h, Except.error.injEq]
  exact ⟨.inl, fun hfirst => hfirst.resolve_right fun hrest => hthere hrest.1⟩

theorem absent (h : FailsBy xs x) {a : α} (hx : x = .ok a) : Absent xs := by
  refine absent_iff.2 fun e hfirst => ?_
  rw [← h, hx] at hfirst
  cases hfirst

/-- Faults that are not there may be looked for as well. -/
theorem of_absent (habsent : Absent xs) (h : FailsBy ys x) : FailsBy (xs ++ ys) x := by
  intro e
  have hfirst := absent_iff.1 habsent e
  rw [firstOf_append, h]
  exact ⟨fun hrest => .inr ⟨habsent, hrest⟩, fun hany => (hany.resolve_left hfirst).2⟩

/-- A run and the run behind it look for the faults of both. -/
theorem bind {f : α → Except ExtractError β} (hx : FailsBy xs x)
    (hf : ∀ a, x = .ok a → FailsBy ys (f a)) : FailsBy (xs ++ ys) (x >>= f) := by
  intro e
  rw [firstOf_append, ← hx e]
  cases hrun : x with
  | error e' =>
    have hnot : ¬ Absent xs := fun habsent => absent_iff.1 habsent e' ((hx e').1 hrun)
    simp [bind_eq_error_iff, hnot]
  | ok a =>
    have habsent := hx.absent hrun
    have hrest := hf a hrun e
    simp [bind_eq_error_iff, habsent, hrest]

end FailsBy

/-! ## The faults of an extraction -/

/-- The number of the line that a text ends in, from one. -/
def lineAfter (text : List Char) : Nat :=
  text.count '\n' + 1

namespace Fault

/-- The pattern has no place for the name. -/
def noPlaceholder (pattern : String) : Fault := fun e =>
  ¬ placeholder.toList <:+: pattern.toList ∧ e = .missingPlaceholder pattern

/-- A doc comment of a part of a source is never closed.  The line is that of the start of the
comment in the source, of which `front` is what stands in front of the part. -/
def unclosed (block : CommentBlock) (front part : List Char) : Fault := fun e =>
  ∃ before, NeverClosed part before ∧ e = .unterminated block (lineAfter (front ++ before))

/-- The first occurrence of a tag in a comment has no value. -/
def noValue (block : CommentBlock) (tag : String) (body : List Char) : Fault := fun e =>
  LacksValue tag body ∧ e = .missingValue block tag

/-- The comment with the settings of the whole file has a tag without value. -/
def ofConfig (tags : Tags) (source : List Char) : Fault := fun e =>
  ∃ body, ConfigComment tags source body ∧ noValue .config tags.prepend body e

section Objects

variable (search : Matcher) (s : ExtractSettings) (source : List Char) (name : String)

/-- The pattern is not valid once the name is filled in. -/
def notPattern : Fault := fun e =>
  search (declarationPattern s.effectivePattern name).toList source = .notPattern ∧
    e = .invalidPattern (.object name) (declarationPattern s.effectivePattern name)

/-- A doc comment in the range of the declaration of an object is never closed there. -/
def unclosedIn : Fault := fun e =>
  ∃ range, search (declarationPattern s.effectivePattern name).toList source = .found range ∧
    unclosed (.object name) (source.take range.start) (range.text source) e

/-- The comment of an object that is not ignored has a tag without value. -/
def noValueIn (tag : String) : Fault := fun e =>
  ∃ body, OwnComment search s source name body ∧ ¬ Carries s.tags.ignore body ∧
    noValue (.object name) tag body e

/-- The faults of an object in order. -/
def ofObject : List Fault :=
  [notPattern search s source name, unclosedIn search s source name,
    noValueIn search s source name s.tags.override,
    noValueIn search s source name s.tags.combinator]

/-- The faults of an extraction in order, for objects in this order. -/
def inOrder (names : List String) : List Fault :=
  noPlaceholder s.effectivePattern :: unclosed .config [] source :: ofConfig s.tags source ::
    names.flatMap (ofObject search s source)

end Objects

end Fault

open Fault

/-! ## Comments -/

/-- The text of a range that is read up to some place, and what stands in front of the range, make
up the source up to that place. -/
theorem lineOf_range {source before rest : List Char} {range : Range}
    (h : range.text source = before ++ rest) :
    lineOf source (range.start + before.length) =
      lineAfter (source.take range.start ++ before) := by
  have hbefore : before <+: source.drop range.start :=
    (List.prefix_append before rest).trans (h ▸ List.take_prefix _ _)
  have htake : (source.drop range.start).take before.length = before :=
    (List.prefix_iff_eq_take.1 hbefore).symm
  rw [lineOf, lineAfter, List.take_add, htake]

/-- Comments cannot be read if one of them is never closed. -/
theorem commentsIn_eq_error_iff {source : List Char} {range : Range} {block : CommentBlock}
    {e : ExtractError} :
    commentsIn source range block = .error e ↔
      unclosed block (source.take range.start) (range.text source) e := by
  have hread : commentsIn source range block = .error e ↔
      ∃ offset, bodies (range.text source) = .error offset ∧
        e = .unterminated block (lineOf source (range.start + offset)) := by
    unfold commentsIn
    cases bodies (range.text source) with
    | ok found => simp [pure, Except.pure]
    | error offset => simp [throw, throwThe, MonadExceptOf.throw, eq_comm]
  have hline {before : List Char} (h : NeverClosed (range.text source) before) :
      lineOf source (range.start + before.length) =
        lineAfter (source.take range.start ++ before) := by
    obtain ⟨_, _, _, rest, _, hsplit, _⟩ := h
    exact lineOf_range (hsplit.trans (List.append_assoc before mark rest))
  rw [hread]
  constructor
  · rintro ⟨offset, hoffset, rfl⟩
    obtain ⟨before, hbefore, rfl⟩ := bodies_eq_error_iff.1 hoffset
    exact ⟨before, hbefore, by rw [hline hbefore]⟩
  · rintro ⟨before, hbefore, rfl⟩
    exact ⟨before.length, bodies_eq_error_iff.2 ⟨before, hbefore, rfl⟩, by rw [hline hbefore]⟩

/-- The settings of a file fail to be read by its comments. -/
theorem failsBy_fileConfig (tags : Tags) (source : List Char) :
    FailsBy [unclosed .config [] source] (fileConfig tags source) := by
  have hcomments : FailsBy [unclosed .config [] source]
      (commentsIn source ⟨0, source.length⟩ .config) := by
    refine .one fun e => ?_
    rw [commentsIn_eq_error_iff, Range.text_whole, List.take_zero]
  exact hcomments.bind fun comments _ => .ok _

/-- The comment of an object fails to be read by its pattern, or by the comments in the range. -/
theorem failsBy_objectComment (search : Matcher) (s : ExtractSettings) (source : List Char)
    (name : String) :
    FailsBy [notPattern search s source name, unclosedIn search s source name]
      (objectComment search s.effectivePattern source name) := by
  cases hsearch : search (declarationPattern s.effectivePattern name).toList source with
  | notPattern =>
    rw [objectComment_notPattern hsearch]
    exact .error (fun e => by simp [notPattern, hsearch, eq_comm]) _
  | notFound =>
    rw [objectComment_notFound hsearch]
    have habsent : Absent [notPattern search s source name, unclosedIn search s source name] := by
      simp [Absent, notPattern, unclosedIn, hsearch]
    exact .of_absent habsent (.ok none)
  | found range =>
    have hpattern : Absent [notPattern search s source name] := by
      simp [Absent, notPattern, hsearch]
    have hcomments : FailsBy [unclosedIn search s source name]
        (commentsIn source range (.object name)) := by
      refine .one fun e => ?_
      simp [commentsIn_eq_error_iff, unclosedIn, hsearch]
    rw [objectComment_found hsearch]
    exact .of_absent hpattern (hcomments.bind fun comments _ => .ok _)

/-! ## Records -/

/-- The settings of a file fail to be taken over by a prepend tag without value. -/
theorem failsBy_baseRecord {s : ExtractSettings} {source : List Char} {config : Option DocComment}
    (hconfig : fileConfig s.tags source = .ok config) (m : StyleModule) :
    FailsBy [ofConfig s.tags source] (baseRecord s config m) := by
  cases config with
  | none =>
    have habsent : Absent [ofConfig s.tags source] := by
      refine absent_cons.2 ⟨?_, List.forall_mem_nil _⟩
      rintro e ⟨body, hbody, _⟩
      have hread := fileConfig_eq_some_iff.2 ⟨body, hbody, rfl⟩
      cases hconfig.symm.trans hread
    exact .of_absent habsent (.ok _)
  | some c =>
    have hvalue : FailsBy [ofConfig s.tags source] (tagValue c s.tags.prepend .config) := by
      refine .one fun e => ?_
      constructor
      · intro he
        obtain ⟨body, hbody, rfl⟩ := fileConfig_eq_some_iff.1 hconfig
        exact ⟨body, hbody, tagValue_eq_error_iff.1 he⟩
      · rintro ⟨body, hbody, hnone⟩
        have hread := fileConfig_eq_some_iff.2 ⟨body, hbody, rfl⟩
        obtain rfl := Option.some.inj (Except.ok.inj (hconfig.symm.trans hread))
        exact tagValue_eq_error_iff.2 hnone
    exact hvalue.bind fun given _ => .ok _

section Objects

variable {search : Matcher} {s : ExtractSettings} {source : List Char} {name : String}

/-- Without a comment of an object, none of its tags lacks a value. -/
theorem not_noValueIn (h : objectComment search s.effectivePattern source name = .ok none)
    (tag : String) (e : ExtractError) : ¬ noValueIn search s source name tag e := by
  rintro ⟨body, hbody, _⟩
  have hread := objectComment_eq_some_iff.2 ⟨body, hbody, rfl⟩
  cases h.symm.trans hread

/-- A tag in the comment of an object is reported if it lacks a value, unless the object is
ignored. -/
theorem noValueIn_iff {c : DocComment}
    (h : objectComment search s.effectivePattern source name = .ok (some c)) (tag : String)
    (e : ExtractError) :
    noValueIn search s source name tag e ↔
      c.has s.tags.ignore = false ∧ tagValue c tag (.object name) = .error e := by
  constructor
  · rintro ⟨body, hbody, hignore, hnone⟩
    have hread := objectComment_eq_some_iff.2 ⟨body, hbody, rfl⟩
    obtain rfl := Option.some.inj (Except.ok.inj (h.symm.trans hread))
    rw [← has_parse_iff, Bool.not_eq_true] at hignore
    exact ⟨hignore, tagValue_eq_error_iff.2 hnone⟩
  · rintro ⟨hignore, hnone⟩
    obtain ⟨body, hbody, rfl⟩ := objectComment_eq_some_iff.1 h
    rw [← Bool.not_eq_true, has_parse_iff] at hignore
    exact ⟨body, hbody, hignore, tagValue_eq_error_iff.1 hnone⟩

/-- The settings of an object fail to be taken over by a tag without value, unless it is ignored. -/
theorem failsBy_addObject {c : DocComment}
    (h : objectComment search s.effectivePattern source name = .ok (some c)) (r : Record) :
    FailsBy [noValueIn search s source name s.tags.override,
      noValueIn search s source name s.tags.combinator] (addObject s.tags r name c) := by
  unfold addObject
  cases hignore : c.has s.tags.ignore with
  | true =>
    have habsent : Absent [noValueIn search s source name s.tags.override,
        noValueIn search s source name s.tags.combinator] := by
      simp [Absent, noValueIn_iff h, hignore]
    exact .of_absent habsent (.ok _)
  | false =>
    have hvalue (tag : String) : FailsBy [noValueIn search s source name tag]
        (tagValue c tag (.object name)) :=
      .one fun e => by simp [noValueIn_iff h, hignore]
    exact (hvalue s.tags.override).bind fun _ _ => (hvalue s.tags.combinator).bind fun _ _ => .ok _

/-- The faults that are looked for in the objects are those of every object, one after the other. -/
theorem failsBy_addObjects (names : List String) (r : Record) :
    FailsBy (names.flatMap (ofObject search s source)) (addObjects search s source names r) := by
  induction names generalizing r with
  | nil => exact .ok r
  | cons name names ih =>
    rw [addObjects, List.flatMap_cons]
    refine (failsBy_objectComment search s source name).bind fun comment hcomment => ?_
    cases comment with
    | none =>
      have habsent : Absent [noValueIn search s source name s.tags.override,
          noValueIn search s source name s.tags.combinator] := by
        simp [Absent, not_noValueIn hcomment]
      exact .of_absent habsent (ih r)
    | some c => exact (failsBy_addObject hcomment r).bind fun next _ => ih next

/-- A tag in the comment of an object is reported only if the object is not ignored. -/
theorem not_carries_of_fault {names : List String} {fault : Fault} {tag : String}
    {body : List Char} (hmem : fault ∈ inOrder search s source names)
    (h : fault (.missingValue (.object name) tag)) (hbody : OwnComment search s source name body) :
    ¬ Carries s.tags.ignore body := by
  simp only [inOrder, List.mem_cons, List.not_mem_nil, or_false, List.mem_flatMap, ofObject] at hmem
  rcases hmem with rfl | rfl | rfl | ⟨other, _, rfl | rfl | rfl | rfl⟩
  · cases h.2
  · obtain ⟨_, _, he⟩ := h
    cases he
  · obtain ⟨_, _, _, he⟩ := h
    cases he
  · cases h.2
  · obtain ⟨_, _, _, _, he⟩ := h
    cases he
  all_goals
    obtain ⟨body', hbody', hignore, _, he⟩ := h
    obtain ⟨⟨rfl⟩, -⟩ := ExtractError.missingValue.inj he
    rwa [← has_parse_iff, hbody.parse_eq hbody', has_parse_iff]

end Objects

/-! ## Extractions -/

/-- An extraction fails by the settings of the file, then by those of its objects in order. -/
theorem failsBy_extractWith (search : Matcher) (source : String) (m : StyleModule)
    (s : ExtractSettings) :
    FailsBy (inOrder search s source.toList m.names) (extractWith search source m s) := by
  unfold extractWith
  simp only
  cases hplace : Text.isInfix placeholder.toList s.effectivePattern.toList with
  | false =>
    have hmissing : ¬ placeholder.toList <:+: s.effectivePattern.toList := by
      simp [← Text.isInfix_iff, hplace]
    exact .error (fun e => by simp [noPlaceholder, hmissing, eq_comm]) _
  | true =>
    have hthere : Absent [noPlaceholder s.effectivePattern] := by
      simp [Absent, noPlaceholder, ← Text.isInfix_iff, hplace]
    have hrest {config : Option DocComment}
        (hconfig : fileConfig s.tags source.toList = .ok config) :
        FailsBy
          (ofConfig s.tags source.toList :: m.names.flatMap (ofObject search s source.toList))
          (baseRecord s config m >>= addObjects search s source.toList m.names) :=
      (failsBy_baseRecord hconfig m).bind fun file _ => failsBy_addObjects m.names file
    exact .of_absent hthere ((failsBy_fileConfig s.tags source.toList).bind fun _ => hrest)

/-- An extraction fails exactly if one of the faults is there, with the first of them.  The objects
are taken by ascending name.  The tags of an object that is ignored need no values. -/
theorem extractWith_eq_error_iff (search : Matcher) (source : String) (m : StyleModule)
    (s : ExtractSettings) :
    m.names.Pairwise (· < ·) ∧
      ((∃ e, extractWith search source m s = .error e) ↔
        ∃ fault ∈ inOrder search s source.toList m.names, ∃ e, fault e) ∧
      (∀ e, extractWith search source m s = .error e ↔
        FirstOf (inOrder search s source.toList m.names) e) ∧
      ∀ name body tag, OwnComment search s source.toList name body →
        Carries s.tags.ignore body →
        extractWith search source m s ≠ .error (.missingValue (.object name) tag) := by
  have hfails := failsBy_extractWith search source m s
  refine ⟨Dict.names_ascending m.objects, ?_, hfails, ?_⟩
  · simp only [hfails _, exists_firstOf_iff]
  · intro name body tag hbody hignore herror
    obtain ⟨before, fault, after, hsplit, hfault, _⟩ := (hfails _).1 herror
    have hmem : fault ∈ inOrder search s source.toList m.names := by simp [hsplit]
    exact not_carries_of_fault hmem hfault hbody hignore

/-- The names decide which object is reported, and not the source; an object that is ignored is
not. -/
example :
    extract ("/** @class */\nexport const c=0\n/** @combinator */\nexport const b=0\n" ++
        "/** @ignore @class */\nexport const a=0\n")
      (.ofList [("a", .nil), ("b", .nil), ("c", .nil)]) .empty =
        .error (.missingValue (.object "b") "@combinator") := by
  decide +kernel

end StyleObjects
