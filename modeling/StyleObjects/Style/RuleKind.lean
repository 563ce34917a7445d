import StyleObjects.Style.Declaration

/-!
# Kinds of entries

What an entry of a declaration stands for is decided once, from the text of its key and from
whether its value is a block.
-/

namespace StyleObjects

/-- The key of metadata that is never written. -/
def labelKey : String := "label"

/-- What an entry of a declaration stands for. -/
inductive RuleKind where
  /-- A property with a leaf value. -/
  | property
  /-- A key such as `:hover`, appended to the parent selector. -/
  | pseudo
  /-- A key such as `[open]`: an attribute of a descendant. -/
  | attribute
  /-- A nested key with `&`, which stands for the combinator selector. -/
  | combinator
  /-- Any other nested key, joined to the parent selector by a space. -/
  | descendant
  /-- A media query, written as a block around its rules. -/
  | mediaQuery
  /-- A keyframes block, written on its own. -/
  | keyframes
  /-- The label of an object. -/
  | reserved
deriving DecidableEq, Repr

/-- Whether a key starts with a given text. -/
def keyStarts (start key : String) : Bool :=
  start.toList.isPrefixOf key.toList

/-- The kind of an entry.  Among blocks the at-rules come first, then pseudo selectors, then `&`,
so that `[open] &` is a combinator while a bare `[open]` is an attribute. -/
def RuleKind.classify (key : String) (value : StyleValue) : RuleKind :=
  if key = labelKey then .reserved
  else if !value.isBlock then .property
  else if keyStarts "@media" key then .mediaQuery
  else if keyStarts "@keyframes" key then .keyframes
  else if keyStarts ":" key then .pseudo
  else if '&' ∈ key.toList then .combinator
  else if keyStarts "[" key then .attribute
  else .descendant

/-- An entry that is no block and not reserved is a property. -/
theorem RuleKind.classify_leaf {key : String} {value : StyleValue} (hk : key ≠ labelKey)
    (hv : value.isBlock = false) : classify key value = .property := by
  simp [classify, hk, hv]

end StyleObjects
