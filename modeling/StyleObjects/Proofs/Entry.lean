import StyleObjects.Sheet.AtRule

/-!
# Entries of a declaration

The walks over a declaration treat an entry by its key and by whether its value is a block.  This
file names the tests on keys and says what each walk does at a leaf and at a block.

Main results:

- `nestedSelector?_block`: a block that is neither an at-rule nor a label is a rule under the
  composed selector.
- `Declaration.nestedRules_block`, `Declaration.mediaQueries_block`, `Declaration.keyframes_block`,
  `Keyframes.rules_block`: what each walk finds at a block.
- `Declaration.nestedRules_induction`, `Declaration.mediaQueries_induction`,
  `Declaration.keyframes_induction`: what holds where something is found holds of all that is found.
-/

namespace StyleObjects

/-! ## At-rule keys -/

/-- Whether a block with this key is a media query. -/
def isMediaKey (key : String) : Bool :=
  keyStarts "@media" key

/-- Whether a block with this key is a keyframes block. -/
def isKeyframesKey (key : String) : Bool :=
  keyStarts "@keyframes" key

/-- A key cannot announce a media query and a keyframes block at once. -/
theorem isMediaKey_of_isKeyframesKey {key : String} (h : isKeyframesKey key = true) :
    isMediaKey key = false := by
  simp only [isKeyframesKey, isMediaKey, keyStarts, List.isPrefixOf_iff_prefix] at h ⊢
  obtain ⟨rest, hrest⟩ := h
  rw [← hrest]
  rfl

/-- The other way around, a media key announces no keyframes. -/
theorem isKeyframesKey_of_isMediaKey {key : String} (h : isMediaKey key = true) :
    isKeyframesKey key = false := by
  cases hframes : isKeyframesKey key with
  | false => rfl
  | true => simp [isMediaKey_of_isKeyframesKey hframes] at h

/-- The label is no at-rule. -/
@[simp] theorem isMediaKey_labelKey : isMediaKey labelKey = false := by decide

@[simp] theorem isKeyframesKey_labelKey : isKeyframesKey labelKey = false := by decide

theorem ne_labelKey_of_isMediaKey {key : String} (h : isMediaKey key = true) : key ≠ labelKey := by
  rintro rfl
  simp at h

theorem ne_labelKey_of_isKeyframesKey {key : String} (h : isKeyframesKey key = true) :
    key ≠ labelKey := by
  rintro rfl
  simp at h

/-! ## Blocks -/

/-- The selector of a block nested in a rule.  A pseudo key is appended to the parent; in a key with
`&`, each `&` stands for the combinator, or for the parent if there is none; any other key follows
the parent and a space. -/
def composed (parent : String) (combinator : Option String) (key : String) : String :=
  if keyStarts ":" key then parent ++ key
  else if '&' ∈ key.toList then
    String.ofList (Text.replaceChar '&' (combinator.getD parent).toList key.toList)
  else parent ++ " " ++ key

/-- The kind of a block, by the tests on its key. -/
theorem classify_block (key : String) (body : Declaration) :
    RuleKind.classify key (.block body) =
      if key = labelKey then .reserved
      else if isMediaKey key then .mediaQuery
      else if isKeyframesKey key then .keyframes
      else if keyStarts ":" key then .pseudo
      else if '&' ∈ key.toList then .combinator
      else if keyStarts "[" key then .attribute
      else .descendant :=
  rfl

/-- A block that is neither an at-rule nor a label is a rule under the composed selector. -/
theorem nestedSelector?_block (parent : String) (combinator : Option String) (key : String)
    (body : Declaration) :
    nestedSelector? parent combinator key (.block body) =
      if key = labelKey ∨ isMediaKey key = true ∨ isKeyframesKey key = true then none
      else some (composed parent combinator key) := by
  rw [nestedSelector?, classify_block]
  unfold composed
  split <;> grind

namespace Declaration

variable (key : String) (body rest : Declaration)

/-- A block gives its rules below the composed selector, unless it is a label or an at-rule. -/
theorem nestedRules_block (parent : String) (combinator : Option String) :
    (cons key (.block body) rest).nestedRules parent combinator =
      (if key = labelKey ∨ isMediaKey key = true ∨ isKeyframesKey key = true then []
        else body.rules (composed parent combinator key) none) ++
        rest.nestedRules parent combinator := by
  rw [nestedRules, nestedSelector?_block]
  by_cases h : key = labelKey ∨ isMediaKey key = true ∨ isKeyframesKey key = true
  · rw [if_pos h, if_pos h]
  · rw [if_neg h, if_neg h]
    rfl

/-- A media block is a media query; other blocks but labels pass on those in them. -/
theorem mediaQueries_block :
    (cons key (.block body) rest).mediaQueries =
      (if key = labelKey then []
        else if isMediaKey key then [.mk key body body.mediaQueries]
        else body.mediaQueries) ++ rest.mediaQueries := by
  rw [mediaQueries, classify_block]
  congr 1
  grind

/-- A keyframes block is found; other blocks but labels pass on those in them. -/
theorem keyframes_block :
    (cons key (.block body) rest).keyframes =
      (if key = labelKey then []
        else if isKeyframesKey key then [⟨key, body⟩]
        else body.keyframes) ++ rest.keyframes := by
  have hdisjoint := @isMediaKey_of_isKeyframesKey key
  rw [keyframes, classify_block]
  congr 1
  grind

/-- A block adds no line to the level that it stands in. -/
@[simp] theorem lines_block :
    (cons key (.block body) rest).lines = rest.lines := by
  simp [lines, propertyLine, propertyValue]

/-! ## Leaves -/

theorem nestedRules_leaf {value : StyleValue} (hvalue : value.isBlock = false) (key : String)
    (rest : Declaration) (parent : String) (combinator : Option String) :
    (cons key value rest).nestedRules parent combinator = rest.nestedRules parent combinator := by
  cases value <;> simp_all [nestedRules, StyleValue.isBlock, StyleValue.block?]

theorem mediaQueries_leaf {value : StyleValue} (hvalue : value.isBlock = false) (key : String)
    (rest : Declaration) : (cons key value rest).mediaQueries = rest.mediaQueries := by
  cases value <;> simp_all [mediaQueries, StyleValue.isBlock, StyleValue.block?]

theorem keyframes_leaf {value : StyleValue} (hvalue : value.isBlock = false) (key : String)
    (rest : Declaration) : (cons key value rest).keyframes = rest.keyframes := by
  cases value <;> simp_all [keyframes, StyleValue.isBlock, StyleValue.block?]

end Declaration

/-! ## Offsets -/

namespace Keyframes

/-- The rules of a keyframes block, offset by offset. -/
theorem rules_block (name offset : String) (body rest : Declaration) :
    (mk name (.cons offset (.block body) rest)).rules =
      body.rules offset none ++ (mk name rest).rules := by
  simp [rules]

/-- A leaf directly in keyframes is no offset. -/
theorem rules_leaf {value : StyleValue} (hvalue : value.isBlock = false) (name key : String)
    (rest : Declaration) : (mk name (.cons key value rest)).rules = (mk name rest).rules := by
  cases value <;> simp_all [rules, StyleValue.isBlock, StyleValue.block?]

end Keyframes

namespace Declaration

/-! ## Induction over what a walk finds -/

/-- A nested rule is that of a block, or is found inside of the block, or in the rest. -/
theorem nestedRules_induction {motive : Declaration → String → Option String → Rule → Prop}
    (here : ∀ {key body rest parent combinator}, motive (cons key (.block body) rest) parent combinator
      (Rule.ofLevel (composed parent combinator key) body))
    (inside : ∀ {key body rest parent combinator rule},
      motive body (composed parent combinator key) none rule →
        motive (cons key (.block body) rest) parent combinator rule)
    (later : ∀ {key value rest parent combinator rule}, motive rest parent combinator rule →
      motive (cons key value rest) parent combinator rule)
    {d : Declaration} {parent : String} {combinator : Option String} :
    ∀ rule ∈ d.nestedRules parent combinator, motive d parent combinator rule := by
  induction d using entry_induction generalizing parent combinator with
  | nil => simp [nestedRules]
  | leaf key value rest hvalue ih =>
    intro rule hrule
    rw [nestedRules_leaf hvalue] at hrule
    exact later (ih rule hrule)
  | block key body rest ihBody ihRest =>
    intro rule hrule
    rw [nestedRules_block, List.mem_append] at hrule
    rcases hrule with hrule | hrule
    · split at hrule
      · simp at hrule
      · rcases List.mem_cons.1 hrule with rfl | hrule
        · exact here
        · exact inside (ihBody rule hrule)
    · exact later (ihRest rule hrule)

/-- A media query is a block, or is found inside of a block, or in the rest.  It holds the media
queries that are found in its body. -/
theorem mediaQueries_induction {motive : Declaration → MediaQuery → Prop}
    (here : ∀ {key body rest}, isMediaKey key = true →
      (∀ media ∈ body.mediaQueries, motive body media) →
        motive (cons key (.block body) rest) (.mk key body body.mediaQueries))
    (inside : ∀ {key body rest media}, motive body media →
      motive (cons key (.block body) rest) media)
    (later : ∀ {key value rest media}, motive rest media → motive (cons key value rest) media)
    {d : Declaration} : ∀ media ∈ d.mediaQueries, motive d media := by
  induction d using entry_induction with
  | nil => simp [mediaQueries]
  | leaf key value rest hvalue ih =>
    intro media hmedia
    rw [mediaQueries_leaf hvalue] at hmedia
    exact later (ih media hmedia)
  | block key body rest ihBody ihRest =>
    intro media hmedia
    rw [mediaQueries_block, List.mem_append] at hmedia
    rcases hmedia with hmedia | hmedia
    · split at hmedia
      · simp at hmedia
      split at hmedia
      · rename_i hkey
        obtain rfl := List.mem_singleton.1 hmedia
        exact here hkey ihBody
      · exact inside (ihBody media hmedia)
    · exact later (ihRest media hmedia)

/-- A keyframes block is a block, or is found inside of a block, or in the rest. -/
theorem keyframes_induction {motive : Declaration → Keyframes → Prop}
    (here : ∀ {key body rest}, isKeyframesKey key = true →
      motive (cons key (.block body) rest) ⟨key, body⟩)
    (inside : ∀ {key body rest k}, motive body k → motive (cons key (.block body) rest) k)
    (later : ∀ {key value rest k}, motive rest k → motive (cons key value rest) k)
    {d : Declaration} : ∀ k ∈ d.keyframes, motive d k := by
  induction d using entry_induction with
  | nil => simp [keyframes]
  | leaf key value rest hvalue ih =>
    intro k hk
    rw [keyframes_leaf hvalue] at hk
    exact later (ih k hk)
  | block key body rest ihBody ihRest =>
    intro k hk
    rw [keyframes_block, List.mem_append] at hk
    rcases hk with hk | hk
    · split at hk
      · simp at hk
      split at hk
      · rename_i hkey
        obtain rfl := List.mem_singleton.1 hk
        exact here hkey
      · exact inside (ihBody k hk)
    · exact later (ihRest k hk)

end Declaration

end StyleObjects
