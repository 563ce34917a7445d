import StyleObjects.Proofs.Entry

/-!
# Places of leaves

Every leaf of a declaration has at most one place, read off the keys above it.  The place can also
be found by walking along these keys, from one position to the next; this file defines both and
shows that they agree.

Main results:

- `Leaf.isSome_written?_iff`: which leaves are written at all.
- `Position.reach?_eq`: where a path leads to from any position.
- `Position.reach?_start`: walking along a path from the outside leads to the place of the path.
-/

namespace StyleObjects

/-! ## Leaves -/

/-- A leaf entry of a declaration, with the keys of the blocks around it, outermost first. -/
structure Leaf where
  path : List String
  key : String
  value : StyleValue

/-- The same leaf, seen from outside of a block with a given key. -/
def Leaf.under (key : String) (l : Leaf) : Leaf :=
  { l with path := key :: l.path }

@[simp] theorem Leaf.path_under (key : String) (l : Leaf) : (l.under key).path = key :: l.path :=
  rfl

/-- All leaf entries of a declaration, at any depth. -/
def Declaration.leaves : Declaration → List Leaf
  | nil => []
  | cons key value rest =>
    (match value with
      | .block body => body.leaves.map (Leaf.under key)
      | value => [⟨[], key, value⟩]) ++ rest.leaves

/-- The line of a leaf: its property and its value.  An absent value and a label have none. -/
def Leaf.line? (l : Leaf) : Option String :=
  if l.key = labelKey then none
  else (propertyValue l.key l.value).map fun value => propertyName l.key ++ ": " ++ value

/-- The keys around a leaf do not change its line. -/
@[simp] theorem Leaf.line?_under (key : String) (l : Leaf) : (l.under key).line? = l.line? :=
  rfl

namespace Declaration

theorem leaves_leaf {value : StyleValue} (hvalue : value.isBlock = false) (key : String)
    (rest : Declaration) : (cons key value rest).leaves = ⟨[], key, value⟩ :: rest.leaves := by
  cases value <;> simp_all [leaves, StyleValue.isBlock, StyleValue.block?]

/-- A block has the leaves of its body, seen from outside. -/
theorem leaves_block (key : String) (body rest : Declaration) :
    (cons key (.block body) rest).leaves = body.leaves.map (Leaf.under key) ++ rest.leaves := by
  rw [leaves]

end Declaration

/-! ## Places -/

/-- Where a line is written: in a rule below a chain of media queries, outermost first, or in a rule
of a keyframes block. -/
inductive RulePlace where
  | media (chain : List String) (selector : String)
  | keyframes (name selector : String)
deriving DecidableEq, Repr

/-- The selector that a path of nested keys leads to.  The combinator counts for its first key
alone. -/
def selectorAt (target : String) (combinator : Option String) : List String → String
  | [] => target
  | key :: path => selectorAt (composed target combinator key) none path

/-- The keys of a path after its last media key, or the whole path if it has none. -/
def afterMedia (path : List String) : List String :=
  (path.reverse.takeWhile fun key => !isMediaKey key).reverse

/-- The place that a path leads to.  Without a keyframes key this is the rule that the keys after the
last media key compose from the target, below all media keys of the path.  With one it is the rule
that the keys after the offset compose from the offset.  The body of a keyframes block itself has no
rule, and neither has anything below a label. -/
def placeAt? (target : String) (combinator : Option String) (path : List String) : Option RulePlace :=
  if labelKey ∈ path then none
  else
    match path.dropWhile fun key => !isKeyframesKey key with
    | [] =>
      some (.media (path.filter isMediaKey)
        (Rule.trimmed (selectorAt target combinator (afterMedia path))))
    | [_] => none
    | name :: offset :: inner =>
      some (.keyframes name (Rule.trimmed (selectorAt offset none inner)))

/-- A leaf as it is to be written: its place and its line. -/
def Leaf.written? (target : String) (combinator : Option String) (l : Leaf) :
    Option (RulePlace × String) :=
  (placeAt? target combinator l.path).bind fun place => l.line?.map fun line => (place, line)

/-! ## Positions within a declaration -/

/-- A position of the walks: the media queries around it, the place of its rule, and the selectors
that its nested keys are composed from. -/
structure Position where
  chain : List String
  place : String → RulePlace
  selector : String
  combinator : Option String

namespace Position

/-- The position outside of all keys. -/
def start (target : String) (root : Option String) : Position where
  chain := []
  place := .media []
  selector := target
  combinator := root

/-- The position in a nested rule. -/
def descend (p : Position) (key : String) : Position :=
  { p with selector := composed p.selector p.combinator key, combinator := none }

/-- The position in a media query, where the selectors start again. -/
def enter (target : String) (root : Option String) (p : Position) (key : String) : Position where
  chain := p.chain ++ [key]
  place := .media (p.chain ++ [key])
  selector := target
  combinator := root

/-- The position at an offset of a keyframes block. -/
def frame (p : Position) (name offset : String) : Position :=
  { p with place := .keyframes name, selector := offset, combinator := none }

/-- The place that a path leads to from a position. -/
def reach? (target : String) (root : Option String) (p : Position) : List String → Option RulePlace
  | [] => some (p.place (Rule.trimmed p.selector))
  | key :: path =>
    if key = labelKey then none
    else if isMediaKey key then reach? target root (p.enter target root key) path
    else if isKeyframesKey key then
      match path with
      | [] => none
      | offset :: inner =>
        if offset = labelKey then none else reach? target root (p.frame key offset) inner
    else reach? target root (p.descend key) path

section Reach

variable {target : String} {root : Option String} {p : Position}

@[simp] theorem reach?_label (path : List String) :
    p.reach? target root (labelKey :: path) = none := by
  cases path <;> simp [reach?]

/-- A media key enters the media query. -/
theorem reach?_media {key : String} (hmedia : isMediaKey key = true) (path : List String) :
    p.reach? target root (key :: path) = (p.enter target root key).reach? target root path := by
  have hlabel := ne_labelKey_of_isMediaKey hmedia
  cases path <;> simp [reach?, hlabel, hmedia]

/-- Any other key but a label or keyframes leads to a nested rule. -/
theorem reach?_nested {key : String} (hlabel : key ≠ labelKey) (hmedia : isMediaKey key = false)
    (hframes : isKeyframesKey key = false) (path : List String) :
    p.reach? target root (key :: path) = (p.descend key).reach? target root path := by
  cases path <;> simp [reach?, hlabel, hmedia, hframes]

/-- Directly inside of a keyframes block there is no rule. -/
theorem reach?_keyframes {name : String} (hframes : isKeyframesKey name = true) :
    p.reach? target root [name] = none := by
  simp [reach?, ne_labelKey_of_isKeyframesKey hframes, isMediaKey_of_isKeyframesKey hframes,
    hframes]

/-- A label in keyframes is no offset. -/
theorem reach?_frame_label {name : String} (hframes : isKeyframesKey name = true)
    (path : List String) : p.reach? target root (name :: labelKey :: path) = none := by
  simp [reach?, ne_labelKey_of_isKeyframesKey hframes, isMediaKey_of_isKeyframesKey hframes,
    hframes]

/-- An offset of keyframes leads to a rule of them. -/
theorem reach?_frame {name offset : String} (hframes : isKeyframesKey name = true)
    (hoffset : offset ≠ labelKey) (path : List String) :
    p.reach? target root (name :: offset :: path) =
      (p.frame name offset).reach? target root path := by
  simp [reach?, ne_labelKey_of_isKeyframesKey hframes, isMediaKey_of_isKeyframesKey hframes,
    hframes, hoffset]

end Reach

end Position

/-! ## Paths and places -/

/-- Whether no key after the first keyframes key is an at-rule. -/
def plainPath : List String → Bool
  | [] => true
  | key :: path =>
    if isKeyframesKey key then path.all fun k => !isMediaKey k && !isKeyframesKey k
    else plainPath path

/-- A path with a media key keeps what follows its last one, whatever is put in front. -/
theorem afterMedia_cons_of_any {path : List String} (h : path.any isMediaKey = true)
    (key : String) : afterMedia (key :: path) = afterMedia path := by
  have hshort : (path.reverse.takeWhile fun k => !isMediaKey k).length ≠ path.reverse.length := by
    intro hlength
    have hself := (List.takeWhile_prefix (l := path.reverse) _).eq_of_length hlength
    obtain ⟨k, hk, hmedia⟩ := List.any_eq_true.1 h
    have hmem : k ∈ path.reverse.takeWhile fun k => !isMediaKey k := by
      rw [hself]
      exact List.mem_reverse.2 hk
    have hnot := List.all_eq_true.1 List.all_takeWhile k hmem
    simp [hmedia] at hnot
  rw [afterMedia, afterMedia, List.reverse_cons, List.takeWhile_append, if_neg hshort]

/-- In front of a path without media keys, a media key is the last one. -/
theorem afterMedia_cons_of_not_any {path : List String} (h : path.any isMediaKey = false)
    (key : String) :
    afterMedia (key :: path) = if isMediaKey key then path else key :: path := by
  have hall : ∀ k ∈ path.reverse, (!isMediaKey k) = true := by
    simpa using h
  rw [afterMedia, List.reverse_cons, List.takeWhile_append_of_pos hall]
  by_cases hmedia : isMediaKey key = true <;> simp [hmedia]

/-- A path without a media key is its own rest. -/
theorem afterMedia_of_not_any {path : List String} (h : path.any isMediaKey = false) :
    afterMedia path = path := by
  cases path with
  | nil => rfl
  | cons key path =>
      simp only [List.any_cons, Bool.or_eq_false_iff] at h
      rw [afterMedia_cons_of_not_any h.2, h.1]
      rfl

/-! ## Which leaves are written -/

/-- A leaf is written if it has a text or a number, neither it nor a block around it is a label, and
it does not stand directly in a keyframes block. -/
def Leaf.IsWritten (l : Leaf) : Prop :=
  ((∃ s, l.value = .text s) ∨ ∃ x, l.value = .number x) ∧ labelKey ∉ l.key :: l.path ∧
    ∀ name, l.path.getLast? = some name → isKeyframesKey name = false

/-- A text or number has a line unless it is a label. -/
theorem Leaf.isSome_line?_iff (l : Leaf) :
    l.line?.isSome = true ↔
      ((∃ s, l.value = .text s) ∨ ∃ x, l.value = .number x) ∧ l.key ≠ labelKey := by
  unfold line?
  by_cases hlabel : l.key = labelKey
  · simp [hlabel]
  · cases hvalue : l.value <;> simp [hlabel, propertyValue]

/-- Directly in a keyframes block the path ends with its key, and only there. -/
theorem dropWhile_eq_singleton_iff {path : List String} (h : plainPath path = true) :
    (∃ name, (path.dropWhile fun key => !isKeyframesKey key) = [name]) ↔
      ∃ name, path.getLast? = some name ∧ isKeyframesKey name = true := by
  induction path with
  | nil => simp
  | cons key path ih =>
      by_cases hframes : isKeyframesKey key = true
      · simp only [plainPath, hframes, if_true] at h
        have hdrop : (key :: path).dropWhile (fun k => !isKeyframesKey k) = key :: path := by
          simp [hframes]
        rw [hdrop]
        cases path with
        | nil => simp [hframes]
        | cons offset inner =>
            simp only [List.cons.injEq, reduceCtorEq, and_false, exists_false, false_iff]
            rintro ⟨name, hlast, hname⟩
            rw [List.getLast?_cons_cons] at hlast
            have hmem := List.mem_of_getLast? hlast
            have hnot := List.all_eq_true.1 h name hmem
            simp [hname] at hnot
      · rw [Bool.not_eq_true] at hframes
        simp only [plainPath, hframes, Bool.false_eq_true, if_false] at h
        have hdrop : (key :: path).dropWhile (fun k => !isKeyframesKey k) =
            path.dropWhile fun k => !isKeyframesKey k := by
          simp [hframes]
        rw [hdrop, ih h]
        cases path with
        | nil => simp [hframes]
        | cons next rest => rw [List.getLast?_cons_cons]

/-- A path leads to a place unless it passes a label or ends with keyframes. -/
theorem isSome_placeAt?_iff {path : List String} (h : plainPath path = true) (target : String)
    (root : Option String) :
    (placeAt? target root path).isSome = true ↔
      labelKey ∉ path ∧ ∀ name, path.getLast? = some name → isKeyframesKey name = false := by
  have hdirect := dropWhile_eq_singleton_iff h
  unfold placeAt?
  by_cases hlabel : labelKey ∈ path
  · simp [hlabel]
  · have hlast : (∀ name, path.getLast? = some name → isKeyframesKey name = false) ↔
        ¬ ∃ name, path.getLast? = some name ∧ isKeyframesKey name = true := by
      simp
    rw [if_neg hlabel, hlast, ← hdirect]
    clear hlast hdirect
    split
    · rename_i hdrop
      simp [hdrop, hlabel]
    · rename_i name hdrop
      simp [hdrop]
    · rename_i name offset inner hdrop
      simp [hdrop, hlabel]

/-- Exactly the leaves to be written have a place and a line. -/
theorem Leaf.isSome_written?_iff {l : Leaf} (h : plainPath l.path = true) (target : String)
    (root : Option String) : (l.written? target root).isSome = true ↔ l.IsWritten := by
  have hplace := isSome_placeAt?_iff h target root
  have hline := l.isSome_line?_iff
  have hboth : (l.written? target root).isSome = true ↔
      (placeAt? target root l.path).isSome = true ∧ l.line?.isSome = true := by
    unfold written?
    cases placeAt? target root l.path <;> cases l.line? <;> simp
  rw [hboth, hplace, hline, IsWritten, List.mem_cons, not_or]
  constructor
  · rintro ⟨⟨hpath, hlast⟩, hvalue, hkey⟩
    exact ⟨hvalue, ⟨Ne.symm hkey, hpath⟩, hlast⟩
  · rintro ⟨hvalue, ⟨hkey, hpath⟩, hlast⟩
    exact ⟨⟨hpath, hlast⟩, hvalue, Ne.symm hkey⟩

namespace Position

section Reach

variable {target : String} {root : Option String}

/-- Along keys that are no at-rules, the selector is composed key by key. -/
theorem reach?_of_no_atRule {path : List String}
    (h : (path.all fun k => !isMediaKey k && !isKeyframesKey k) = true) (p : Position) :
    p.reach? target root path =
      if labelKey ∈ path then none
      else some (p.place (Rule.trimmed (selectorAt p.selector p.combinator path))) := by
  induction path generalizing p with
  | nil => rfl
  | cons key path ih =>
      simp only [List.all_cons, Bool.and_eq_true, Bool.not_eq_true'] at h
      by_cases hlabel : key = labelKey
      · subst hlabel
        simp
      · have hne : labelKey ≠ key := Ne.symm hlabel
        rw [reach?_nested hlabel h.1.1 h.1.2, ih (by simpa using h.2)]
        simp [selectorAt, descend, hne]

/-- Below a keyframes key the selector starts with the offset. -/
theorem reach?_framePath {name offset : String} {inner : List String}
    (hframes : isKeyframesKey name = true)
    (h : ((offset :: inner).all fun k => !isMediaKey k && !isKeyframesKey k) = true)
    (p : Position) :
    p.reach? target root (name :: offset :: inner) =
      if labelKey ∈ offset :: inner then none
      else some (.keyframes name (Rule.trimmed (selectorAt offset none inner))) := by
  by_cases hoffset : offset = labelKey
  · subst hoffset
    rw [reach?_frame_label hframes]
    simp
  · simp only [List.all_cons, Bool.and_eq_true] at h
    rw [reach?_frame hframes hoffset, reach?_of_no_atRule h.2]
    simp [Ne.symm hoffset, frame]

/-- The place that a path reaches.  Without a media key of its own the path goes on from the
position; with one it starts again. -/
theorem reach?_eq {path : List String} (h : plainPath path = true) (p : Position) :
    p.reach? target root path =
      if labelKey ∈ path then none
      else
        match path.dropWhile fun key => !isKeyframesKey key with
        | [] =>
          if path.any isMediaKey then
            some (.media (p.chain ++ path.filter isMediaKey)
              (Rule.trimmed (selectorAt target root (afterMedia path))))
          else some (p.place (Rule.trimmed (selectorAt p.selector p.combinator path)))
        | [_] => none
        | name :: offset :: inner =>
          some (.keyframes name (Rule.trimmed (selectorAt offset none inner))) := by
  induction path generalizing p with
  | nil => rfl
  | cons key path ih =>
      by_cases hlabel : key = labelKey
      · subst hlabel
        simp
      have hne : labelKey ≠ key := Ne.symm hlabel
      by_cases hframes : isKeyframesKey key = true
      · simp only [plainPath, hframes, if_true] at h
        have hdrop : (key :: path).dropWhile (fun k => !isKeyframesKey k) = key :: path := by
          simp [hframes]
        rw [hdrop]
        cases path with
        | nil => simp [reach?_keyframes hframes]
        | cons offset inner =>
            rw [reach?_framePath hframes h]
            simp [hne]
      rw [Bool.not_eq_true] at hframes
      simp only [plainPath, hframes, Bool.false_eq_true, if_false] at h
      have hdrop : (key :: path).dropWhile (fun k => !isKeyframesKey k) =
          path.dropWhile fun k => !isKeyframesKey k := by
        simp [hframes]
      rw [hdrop]
      by_cases hmedia : isMediaKey key = true
      · rw [reach?_media hmedia, ih h]
        by_cases hany : path.any isMediaKey = true
        · simp [hne, hmedia, hany, enter, afterMedia_cons_of_any hany]
        · rw [Bool.not_eq_true] at hany
          have hnone : path.filter isMediaKey = [] := by
            simpa using hany
          simp [hne, hmedia, hany, hnone, enter, afterMedia_cons_of_not_any hany]
      · rw [Bool.not_eq_true] at hmedia
        rw [reach?_nested hlabel hmedia hframes, ih h]
        by_cases hany : path.any isMediaKey = true
        · simp [hne, hmedia, hany, descend, afterMedia_cons_of_any hany]
        · rw [Bool.not_eq_true] at hany
          simp [hne, hmedia, hany, descend, selectorAt]

/-- From outside of all keys, a path reaches the place that its keys name. -/
theorem reach?_start {path : List String} (h : plainPath path = true) :
    (start target root).reach? target root path = placeAt? target root path := by
  rw [reach?_eq h, placeAt?]
  by_cases hany : path.any isMediaKey = true
  · simp [hany, start]
  · rw [Bool.not_eq_true] at hany
    have hnone : path.filter isMediaKey = [] := by
      simpa using hany
    simp [hany, hnone, start, afterMedia_of_not_any hany]

end Reach

end Position

end StyleObjects
