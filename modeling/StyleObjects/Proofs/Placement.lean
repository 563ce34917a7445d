import Mathlib.Data.List.Basic
import StyleObjects.Proofs.Place

/-!
# Where declaration lines are written

Three walks read a declaration: one flattens it into rules, one lifts out its media queries, and one
lifts out its keyframes blocks.  Each passes over what the others pick up.  Together they write
every leaf of the declaration at its place, and nothing else.

Main results:

- `Declaration.writtenFrom_perm_and_frames`: from any position, the walks write the leaves at the
  places that their paths reach.
- `Declaration.written_perm_leaves`: the lines of a declaration are its leaves at their places.
-/

namespace StyleObjects

/-! ## What the walks write -/

/-- The lines of some rules, each with the place that its selector stands for. -/
def linesAt (place : String → RulePlace) (rules : List Rule) : List (RulePlace × String) :=
  rules.flatMap fun rule => rule.declarations.map fun line => (place rule.selector, line)

mutual

/-- The lines below a media query: those of its own rules, then those of the media queries inside of
it. -/
def MediaQuery.written (target : String) (combinator : Option String) (chain : List String) :
    MediaQuery → List (RulePlace × String)
  | .mk query body nested =>
    linesAt (.media (chain ++ [query])) (body.rules target combinator) ++
      writtenAll target combinator (chain ++ [query]) nested

/-- The lines below several media queries. -/
def MediaQuery.writtenAll (target : String) (combinator : Option String) (chain : List String) :
    List MediaQuery → List (RulePlace × String)
  | [] => []
  | media :: rest =>
    media.written target combinator chain ++ writtenAll target combinator chain rest

end

/-- The lines of a keyframes block. -/
def Keyframes.written (k : Keyframes) : List (RulePlace × String) :=
  linesAt (.keyframes k.name) k.rules

/-- All lines that a declaration writes under a target and a combinator: those of its rules, of its
media queries, and of its keyframes blocks. -/
def Declaration.written (d : Declaration) (target : String) (combinator : Option String) :
    List (RulePlace × String) :=
  linesAt (.media []) (d.rules target combinator) ++
    MediaQuery.writtenAll target combinator [] d.mediaQueries ++ d.keyframes.flatMap (·.written)

/-! ## Declarations whose keyframes hold plain rules -/

/-- Whether no block at any depth is an at-rule. -/
def Declaration.withoutAtRules : Declaration → Bool
  | nil => true
  | cons key value rest =>
    (match value with
      | .block body => !isMediaKey key && !isKeyframesKey key && body.withoutAtRules
      | _ => true) && rest.withoutAtRules

/-- Whether no entry is a block with the key of the label. -/
def Declaration.withoutLabelBlock (d : Declaration) : Bool :=
  d.entries.all fun e => !(e.1 == labelKey && e.2.isBlock)

/-- Whether at any depth a keyframes block has no at-rule below it and no block as its label. -/
def Declaration.plainKeyframes : Declaration → Bool
  | nil => true
  | cons key value rest =>
    (match value with
      | .block body =>
        if isKeyframesKey key then body.withoutAtRules && body.withoutLabelBlock
        else body.plainKeyframes
      | _ => true) && rest.plainKeyframes

section Walks

variable (target : String) (root : Option String)

/-- A leaf as it is to be written from a position. -/
def Leaf.writtenFrom? (p : Position) (l : Leaf) : Option (RulePlace × String) :=
  (p.reach? target root l.path).bind fun place => l.line?.map fun line => (place, line)

namespace Declaration

/-- What the three walks write from a position. -/
def writtenFrom (p : Position) (d : Declaration) : List (RulePlace × String) :=
  linesAt p.place (d.rules p.selector p.combinator) ++
    MediaQuery.writtenAll target root p.chain d.mediaQueries ++ d.keyframes.flatMap (·.written)

/-- The rules of a level start with its own lines. -/
theorem linesAt_rules (place : String → RulePlace) (d : Declaration) (selector : String)
    (combinator : Option String) :
    linesAt place (d.rules selector combinator) =
      d.lines.map (fun line => (place (Rule.trimmed selector), line)) ++
        linesAt place (d.nestedRules selector combinator) :=
  rfl

/-- A leaf adds its line to the level that it stands in. -/
theorem lines_leaf {value : StyleValue} (hvalue : value.isBlock = false) (key : String)
    (rest : Declaration) :
    (cons key value rest).lines = (Leaf.line? ⟨[], key, value⟩).toList ++ rest.lines := by
  have hline : propertyLine key value = Leaf.line? ⟨[], key, value⟩ := by
    unfold propertyLine Leaf.line?
    by_cases hlabel : key = labelKey
    · simp [RuleKind.classify, hlabel]
    · simp [RuleKind.classify_leaf hlabel hvalue, hlabel]
  simp only [lines, entries_cons, List.filterMap_cons, hline]
  cases Leaf.line? ⟨[], key, value⟩ <;> rfl

@[simp] theorem linesAt_append (place : String → RulePlace) (rules more : List Rule) :
    linesAt place (rules ++ more) = linesAt place rules ++ linesAt place more :=
  List.flatMap_append

@[simp] theorem writtenAll_append (chain : List String) (queries more : List MediaQuery) :
    MediaQuery.writtenAll target root chain (queries ++ more) =
      MediaQuery.writtenAll target root chain queries ++
        MediaQuery.writtenAll target root chain more := by
  induction queries with
  | nil => rfl
  | cons query queries ih =>
      simp only [List.cons_append, MediaQuery.writtenAll, ih, List.append_assoc]

/-! ### One step of the walks -/

/-- A leaf is written where the walk stands. -/
theorem writtenFrom_leaf {value : StyleValue} (hvalue : value.isBlock = false) (p : Position)
    (key : String) (rest : Declaration) :
    (cons key value rest).writtenFrom target root p =
      (Leaf.writtenFrom? target root p ⟨[], key, value⟩).toList ++
        rest.writtenFrom target root p := by
  simp only [writtenFrom, linesAt_rules, lines_leaf hvalue, nestedRules_leaf hvalue,
    mediaQueries_leaf hvalue, keyframes_leaf hvalue]
  cases hline : Leaf.line? ⟨[], key, value⟩ <;>
    simp [Leaf.writtenFrom?, Position.reach?, hline]

/-- A block with the key of the label is passed over by all walks. -/
theorem writtenFrom_label (p : Position) (body rest : Declaration) :
    (cons labelKey (.block body) rest).writtenFrom target root p =
      rest.writtenFrom target root p := by
  simp [writtenFrom, linesAt_rules, nestedRules_block, mediaQueries_block, keyframes_block]

/-- A media query is read from the position inside of it. -/
theorem writtenFrom_media {key : String} (hmedia : isMediaKey key = true) (p : Position)
    (body rest : Declaration) :
    ((cons key (.block body) rest).writtenFrom target root p).Perm
      (body.writtenFrom target root (p.enter target root key) ++
        rest.writtenFrom target root p) := by
  have hlabel := ne_labelKey_of_isMediaKey hmedia
  have hframes := isKeyframesKey_of_isMediaKey hmedia
  rw [List.perm_iff_count]
  intro line
  simp [writtenFrom, linesAt_rules, nestedRules_block, mediaQueries_block, keyframes_block, hlabel,
    hmedia, hframes, MediaQuery.writtenAll, MediaQuery.written, Position.enter]
  omega

/-- A nested rule is read from the position inside of it. -/
theorem writtenFrom_nested {key : String} (hlabel : key ≠ labelKey)
    (hmedia : isMediaKey key = false) (hframes : isKeyframesKey key = false) (p : Position)
    (body rest : Declaration) :
    ((cons key (.block body) rest).writtenFrom target root p).Perm
      (body.writtenFrom target root (p.descend key) ++ rest.writtenFrom target root p) := by
  rw [List.perm_iff_count]
  intro line
  simp [writtenFrom, linesAt_rules, nestedRules_block, mediaQueries_block, keyframes_block, hlabel,
    hmedia, hframes, Position.descend]
  omega

/-- A keyframes block adds the rules of its offsets, and the media queries below it. -/
theorem writtenFrom_keyframes {key : String} (hframes : isKeyframesKey key = true) (p : Position)
    (body rest : Declaration) :
    ((cons key (.block body) rest).writtenFrom target root p).Perm
      (Keyframes.written ⟨key, body⟩ ++
        MediaQuery.writtenAll target root p.chain body.mediaQueries ++
        rest.writtenFrom target root p) := by
  have hlabel := ne_labelKey_of_isKeyframesKey hframes
  have hmedia := isMediaKey_of_isKeyframesKey hframes
  rw [List.perm_iff_count]
  intro line
  simp [writtenFrom, linesAt_rules, nestedRules_block, mediaQueries_block, keyframes_block, hlabel,
    hmedia, hframes]
  omega

/-! ### Blocks without at-rules -/

theorem withoutAtRules_leaf {value : StyleValue} (hvalue : value.isBlock = false) (key : String)
    (rest : Declaration) : (cons key value rest).withoutAtRules = rest.withoutAtRules := by
  cases value <;> simp_all [withoutAtRules, StyleValue.isBlock, StyleValue.block?]

theorem plainKeyframes_leaf {value : StyleValue} (hvalue : value.isBlock = false) (key : String)
    (rest : Declaration) : (cons key value rest).plainKeyframes = rest.plainKeyframes := by
  cases value <;> simp_all [plainKeyframes, StyleValue.isBlock, StyleValue.block?]

/-- Without at-rules, no block is one, nor is any in it. -/
theorem withoutAtRules_block {key : String} {body rest : Declaration}
    (h : (cons key (.block body) rest).withoutAtRules = true) :
    isMediaKey key = false ∧ isKeyframesKey key = false ∧ body.withoutAtRules = true ∧
      rest.withoutAtRules = true := by
  simpa [withoutAtRules, and_assoc] using h

/-- Without at-rules there are no media queries. -/
theorem mediaQueries_eq_nil {d : Declaration} (h : d.withoutAtRules = true) :
    d.mediaQueries = [] := by
  induction d using entry_induction with
  | nil => rfl
  | leaf key value rest hvalue ih =>
      rw [withoutAtRules_leaf hvalue] at h
      rw [mediaQueries_leaf hvalue, ih h]
  | block key body rest ihBody ihRest =>
      obtain ⟨hmedia, -, hbody, hrest⟩ := withoutAtRules_block h
      simp [mediaQueries_block, hmedia, ihBody hbody, ihRest hrest]

/-- Without at-rules there are no keyframes. -/
theorem keyframes_eq_nil {d : Declaration} (h : d.withoutAtRules = true) : d.keyframes = [] := by
  induction d using entry_induction with
  | nil => rfl
  | leaf key value rest hvalue ih =>
      rw [withoutAtRules_leaf hvalue] at h
      rw [keyframes_leaf hvalue, ih h]
  | block key body rest ihBody ihRest =>
      obtain ⟨-, hframes, hbody, hrest⟩ := withoutAtRules_block h
      simp [keyframes_block, hframes, ihBody hbody, ihRest hrest]

/-- Without at-rules no keyframes hold any. -/
theorem plainKeyframes_of_withoutAtRules {d : Declaration} (h : d.withoutAtRules = true) :
    d.plainKeyframes = true := by
  induction d using entry_induction with
  | nil => rfl
  | leaf key value rest hvalue ih =>
      rw [withoutAtRules_leaf hvalue] at h
      rw [plainKeyframes_leaf hvalue, ih h]
  | block key body rest ihBody ihRest =>
      obtain ⟨-, hframes, hbody, hrest⟩ := withoutAtRules_block h
      simp [plainKeyframes, hframes, ihBody hbody, ihRest hrest]

/-! ### All steps of the walks -/

theorem filterMap_leaves_leaf {value : StyleValue} (hvalue : value.isBlock = false)
    (f : Leaf → Option (RulePlace × String)) (key : String) (rest : Declaration) :
    (cons key value rest).leaves.filterMap f =
      (f ⟨[], key, value⟩).toList ++ rest.leaves.filterMap f := by
  rw [leaves_leaf hvalue, List.filterMap_cons]
  cases f ⟨[], key, value⟩ <;> rfl

theorem filterMap_leaves_block (f : Leaf → Option (RulePlace × String)) (key : String)
    (body rest : Declaration) :
    (cons key (.block body) rest).leaves.filterMap f =
      body.leaves.filterMap (fun l => f (l.under key)) ++ rest.leaves.filterMap f := by
  rw [leaves_block, List.filterMap_append, List.filterMap_map]
  rfl

/-- A keyframes block reads its first offset, then the others. -/
theorem written_frames_block (name offset : String) (body rest : Declaration) :
    Keyframes.written ⟨name, cons offset (.block body) rest⟩ =
      linesAt (.keyframes name) (body.rules offset none) ++ Keyframes.written ⟨name, rest⟩ := by
  simp [Keyframes.written, Keyframes.rules]

/-- Nothing is written of a leaf directly in keyframes. -/
theorem written_frames_leaf {value : StyleValue} (hvalue : value.isBlock = false)
    (name key : String) (rest : Declaration) :
    Keyframes.written ⟨name, cons key value rest⟩ = Keyframes.written ⟨name, rest⟩ := by
  cases value <;>
    simp_all [Keyframes.written, Keyframes.rules, StyleValue.isBlock, StyleValue.block?]

/-! ### The leaves of a block, seen from outside and from inside -/

/-- Below a label nothing is to be written. -/
theorem filterMap_under_label (p : Position) (body : Declaration) :
    body.leaves.filterMap (fun l => (l.under labelKey).writtenFrom? target root p) = [] := by
  rw [List.filterMap_eq_nil_iff]
  intro l hl
  simp [Leaf.writtenFrom?]

/-- Below a media key the leaves are to be written where it leads. -/
theorem filterMap_under_media {key : String} (hmedia : isMediaKey key = true) (p : Position)
    (body : Declaration) :
    body.leaves.filterMap (fun l => (l.under key).writtenFrom? target root p) =
      body.leaves.filterMap (Leaf.writtenFrom? target root (p.enter target root key)) := by
  congr 1
  funext l
  simp [Leaf.writtenFrom?, Position.reach?_media hmedia]

/-- Below a nested key the leaves are to be written where it leads. -/
theorem filterMap_under_nested {key : String} (hlabel : key ≠ labelKey)
    (hmedia : isMediaKey key = false) (hframes : isKeyframesKey key = false) (p : Position)
    (body : Declaration) :
    body.leaves.filterMap (fun l => (l.under key).writtenFrom? target root p) =
      body.leaves.filterMap (Leaf.writtenFrom? target root (p.descend key)) := by
  congr 1
  funext l
  simp [Leaf.writtenFrom?, Position.reach?_nested hlabel hmedia hframes]

/-- Below an offset the leaves are to be written in the rules of the keyframes. -/
theorem filterMap_under_frame {name offset : String} (hframes : isKeyframesKey name = true)
    (hoffset : offset ≠ labelKey) (p : Position) (body : Declaration) :
    body.leaves.filterMap (fun l => ((l.under offset).under name).writtenFrom? target root p) =
      body.leaves.filterMap (Leaf.writtenFrom? target root (p.frame name offset)) := by
  congr 1
  funext l
  simp [Leaf.writtenFrom?, Position.reach?_frame hframes hoffset]

/-- At an offset without at-rules, the walks write the rules of the offset alone. -/
theorem writtenFrom_frame {body : Declaration} (hbody : body.withoutAtRules = true) (p : Position)
    (name offset : String) :
    body.writtenFrom target root (p.frame name offset) =
      linesAt (.keyframes name) (body.rules offset none) := by
  simp [writtenFrom, Position.frame, mediaQueries_eq_nil hbody, keyframes_eq_nil hbody,
    MediaQuery.writtenAll]

/-- The lines of a position are its leaves, where the entry is a block: by the kind of its key the
block is read from another position, and the positions agree with the paths. -/
theorem writtenFrom_perm_block {key : String} {body rest : Declaration}
    (hplain : (cons key (.block body) rest).plainKeyframes = true) (p : Position)
    (ihBody : body.plainKeyframes = true → ∀ q : Position,
      (body.writtenFrom target root q).Perm
        (body.leaves.filterMap (Leaf.writtenFrom? target root q)))
    (ihFrames : body.withoutAtRules = true → body.withoutLabelBlock = true →
      isKeyframesKey key = true →
        (Keyframes.written ⟨key, body⟩).Perm
          (body.leaves.filterMap fun l => (l.under key).writtenFrom? target root p))
    (ihRest : (rest.writtenFrom target root p).Perm
      (rest.leaves.filterMap (Leaf.writtenFrom? target root p))) :
    ((cons key (.block body) rest).writtenFrom target root p).Perm
      ((cons key (.block body) rest).leaves.filterMap (Leaf.writtenFrom? target root p)) := by
  rw [filterMap_leaves_block]
  have hrest : rest.plainKeyframes = true := (Bool.and_eq_true_iff.1 hplain).2
  by_cases hlabel : key = labelKey
  · subst hlabel
    rw [writtenFrom_label, filterMap_under_label]
    exact ihRest
  by_cases hmedia : isMediaKey key = true
  · have hbody : body.plainKeyframes = true := by
      simpa [plainKeyframes, isKeyframesKey_of_isMediaKey hmedia, hrest] using hplain
    rw [filterMap_under_media target root hmedia]
    exact (writtenFrom_media target root hmedia p body rest).trans ((ihBody hbody _).append ihRest)
  rw [Bool.not_eq_true] at hmedia
  by_cases hframes : isKeyframesKey key = true
  · obtain ⟨hbody, hlabels⟩ : body.withoutAtRules = true ∧ body.withoutLabelBlock = true := by
      simpa [plainKeyframes, hframes, hrest] using hplain
    have hwritten := writtenFrom_keyframes target root hframes p body rest
    rw [mediaQueries_eq_nil hbody, MediaQuery.writtenAll, List.append_nil] at hwritten
    exact hwritten.trans ((ihFrames hbody hlabels hframes).append ihRest)
  rw [Bool.not_eq_true] at hframes
  have hbody : body.plainKeyframes = true := by
    simpa [plainKeyframes, hframes, hrest] using hplain
  rw [filterMap_under_nested target root hlabel hmedia hframes]
  exact (writtenFrom_nested target root hlabel hmedia hframes p body rest).trans
    ((ihBody hbody _).append ihRest)

/-- From any position, the walks write the leaves at the places that their paths reach; and so does
a keyframes block with the leaves below its offsets. -/
theorem writtenFrom_perm_and_frames (d : Declaration) :
    (d.plainKeyframes = true → ∀ p : Position,
      (d.writtenFrom target root p).Perm
        (d.leaves.filterMap (Leaf.writtenFrom? target root p))) ∧
    (d.withoutAtRules = true → d.withoutLabelBlock = true →
      ∀ (p : Position) (name : String), isKeyframesKey name = true →
        (Keyframes.written ⟨name, d⟩).Perm
          (d.leaves.filterMap fun l => (l.under name).writtenFrom? target root p)) := by
  induction d using entry_induction with
  | nil => exact ⟨fun _ p => .refl _, fun _ _ p name _ => .refl _⟩
  | leaf key value rest hvalue ih =>
      constructor
      · intro hplain p
        rw [plainKeyframes_leaf hvalue] at hplain
        rw [writtenFrom_leaf target root hvalue, filterMap_leaves_leaf hvalue]
        exact (ih.1 hplain p).append_left _
      · intro hwithout hlabels p name hframes
        rw [withoutAtRules_leaf hvalue] at hwithout
        have hrest : rest.withoutLabelBlock = true := by
          simpa [withoutLabelBlock, hvalue] using hlabels
        have hloose : (Leaf.under name ⟨[], key, value⟩).writtenFrom? target root p = none := by
          simp [Leaf.writtenFrom?, Position.reach?_keyframes hframes]
        rw [written_frames_leaf hvalue, filterMap_leaves_leaf hvalue, hloose]
        exact ih.2 hwithout hrest p name hframes
  | block key body rest ihBody ihRest =>
      constructor
      · intro hplain p
        have hrest : rest.plainKeyframes = true := (Bool.and_eq_true_iff.1 hplain).2
        exact writtenFrom_perm_block target root hplain p ihBody.1
          (fun hbody hlabels => ihBody.2 hbody hlabels p key) (ihRest.1 hrest p)
      · intro hwithout hlabels p name hframes
        obtain ⟨-, -, hbody, hrest⟩ := withoutAtRules_block hwithout
        have hoffset : key ≠ labelKey := by
          rintro rfl
          simp [withoutLabelBlock, StyleValue.isBlock, StyleValue.block?] at hlabels
        have hlabelsRest : rest.withoutLabelBlock = true := by
          simp only [withoutLabelBlock, entries_cons, List.all_cons, Bool.and_eq_true] at hlabels
          exact hlabels.2
        rw [written_frames_block, filterMap_leaves_block,
          filterMap_under_frame target root hframes hoffset, ← writtenFrom_frame target root hbody p]
        exact (ihBody.1 (plainKeyframes_of_withoutAtRules hbody) _).append
          (ihRest.2 hrest hlabelsRest p name hframes)

end Declaration

end Walks

namespace Declaration

/-- Without at-rules no path holds one. -/
theorem path_of_withoutAtRules {d : Declaration} (h : d.withoutAtRules = true) :
    ∀ l ∈ d.leaves, (l.path.all fun k => !isMediaKey k && !isKeyframesKey k) = true := by
  induction d using entry_induction with
  | nil => simp [leaves]
  | leaf key value rest hvalue ih =>
      rw [withoutAtRules_leaf hvalue] at h
      intro l hl
      rw [leaves_leaf hvalue, List.mem_cons] at hl
      rcases hl with rfl | hl
      · rfl
      · exact ih h l hl
  | block key body rest ihBody ihRest =>
      obtain ⟨hmedia, hframes, hbody, hrest⟩ := withoutAtRules_block h
      intro l hl
      rw [leaves_block, List.mem_append, List.mem_map] at hl
      rcases hl with ⟨inner, hinner, rfl⟩ | hl
      · have hpath := ihBody hbody inner hinner
        rw [Leaf.path_under, List.all_cons, hpath, hmedia, hframes]
        rfl
      · exact ihRest hrest l hl

/-- Where keyframes hold plain rules, no path has an at-rule after a keyframes key. -/
theorem plainPath_of_plainKeyframes {d : Declaration} (h : d.plainKeyframes = true) :
    ∀ l ∈ d.leaves, plainPath l.path = true := by
  induction d using entry_induction with
  | nil => simp [leaves]
  | leaf key value rest hvalue ih =>
      rw [plainKeyframes_leaf hvalue] at h
      intro l hl
      rw [leaves_leaf hvalue, List.mem_cons] at hl
      rcases hl with rfl | hl
      · rfl
      · exact ih h l hl
  | block key body rest ihBody ihRest =>
      have hrest : rest.plainKeyframes = true := (Bool.and_eq_true_iff.1 h).2
      intro l hl
      rw [leaves_block, List.mem_append, List.mem_map] at hl
      rcases hl with ⟨inner, hinner, rfl⟩ | hl
      · rw [Leaf.path_under, plainPath]
        by_cases hframes : isKeyframesKey key = true
        · obtain ⟨hbody, -⟩ : body.withoutAtRules = true ∧ body.withoutLabelBlock = true := by
            simpa [plainKeyframes, hframes, hrest] using h
          rw [if_pos hframes]
          exact path_of_withoutAtRules hbody inner hinner
        · have hbody : body.plainKeyframes = true := by
            simpa [plainKeyframes, hframes, hrest] using h
          rw [if_neg hframes]
          exact ihBody hbody inner hinner
      · exact ihRest hrest l hl

/-- The three walks over a declaration whose keyframes hold plain rules write its leaves at their
places: each leaf that is to be written exactly once, and nothing else. -/
theorem written_perm_leaves {d : Declaration} (h : d.plainKeyframes = true) (target : String)
    (combinator : Option String) :
    (d.written target combinator).Perm
        (d.leaves.filterMap (Leaf.written? target combinator)) ∧
      ∀ l ∈ d.leaves, (l.written? target combinator).isSome = true ↔ l.IsWritten := by
  have hplaces :
      d.leaves.filterMap (Leaf.writtenFrom? target combinator (.start target combinator)) =
        d.leaves.filterMap (Leaf.written? target combinator) := by
    apply List.filterMap_congr
    intro l hl
    rw [Leaf.writtenFrom?, Leaf.written?,
      Position.reach?_start (plainPath_of_plainKeyframes h l hl)]
  constructor
  · rw [← hplaces]
    exact (writtenFrom_perm_and_frames target combinator d).1 h (.start target combinator)
  · intro l hl
    exact Leaf.isSome_written?_iff (plainPath_of_plainKeyframes h l hl) target combinator

/-- Nested rules, media queries below one another and below a rule, a label and keyframes. -/
def sample : Declaration :=
  .cons "& + &" (.block (.cons "margin" (.text "0")
      (.cons "@media print" (.block (.cons "& > &" (.block (.cons "top" (.text "1em") .nil))
        (.cons "@media (color)" (.block (.cons ":hover" (.block (.cons "left" (.text "2em") .nil))
          .nil)) .nil))) .nil)))
    (.cons "@keyframes spin" (.block (.cons "from" (.block (.cons "span" (.block
        (.cons "opacity" (.text "0") .nil)) .nil)) (.cons "loose" (.text "x") .nil)))
      (.cons "color" (.text "red")
        (.cons "label" (.block (.cons "color" (.text "blue") .nil)) .nil)))

theorem written_perm_leaves_sample :
    sample.plainKeyframes = true ∧
      (sample.written ".card" (some ".x")).Perm
        (sample.leaves.filterMap (Leaf.written? ".card" (some ".x"))) ∧
      ∀ l ∈ sample.leaves, (l.written? ".card" (some ".x")).isSome = true ↔ l.IsWritten :=
  ⟨by decide, written_perm_leaves (by decide) ".card" (some ".x")⟩

end Declaration

end StyleObjects
