import Mathlib.Data.List.Basic
import StyleObjects.Proofs.Place
import StyleObjects.Proofs.Readback

/-!
# Blocks at any depth

The blocks of a declaration are listed with the keys around them, outermost first, so that what the
walks find can be compared with what there is.  Media queries are found wherever they stand, also
below keyframes.  Keyframes are not found below other keyframes, and an at-rule that stands directly
in keyframes is taken for an offset; elsewhere every keyframes block is found once, and only rules
stand in it.

Main results:

- `Declaration.nestedRules_eq_filter`: which blocks the rules of a declaration come from.
- `Declaration.foundAll_mediaQueries`: every media query outside of labels is found once.
- `Declaration.keyframes_eq_filter`: keyframes are found outside of labels and of other keyframes.
- `Declaration.keyframes_eq_nestedBlocks`: where keyframes hold offsets alone, all of them are found.
-/

namespace StyleObjects

/-! ## Blocks and the keys around them -/

/-- A block of a declaration, with the keys of the blocks around it, outermost first. -/
structure NestedBlock where
  path : List String
  key : String
  body : Declaration
deriving DecidableEq, Repr

/-- Whether a block with this key is an at-rule. -/
def isAtRuleKey (key : String) : Bool :=
  isMediaKey key || isKeyframesKey key

/-- Whether a block with this key is a rule. -/
def isRuleKey (key : String) : Bool :=
  key != labelKey && !isAtRuleKey key

/-- A block is a rule unless it is a label or an at-rule. -/
theorem isRuleKey_eq_false_iff {key : String} :
    isRuleKey key = false ↔ key = labelKey ∨ isMediaKey key = true ∨ isKeyframesKey key = true := by
  simp only [isRuleKey, isAtRuleKey, Bool.and_eq_false_iff, bne_eq_false_iff_eq,
    Bool.not_eq_false', Bool.or_eq_true]

/-- Keys are all those of rules if none is an at-rule and none is a label. -/
theorem all_isRuleKey (keys : List String) :
    keys.all isRuleKey = (keys.all (!isAtRuleKey ·) && !keys.contains labelKey) := by
  induction keys with
  | nil => rfl
  | cons key keys ih =>
    rw [List.all_cons, List.all_cons, List.contains_cons, ih, isRuleKey, bne, Bool.not_or,
      Bool.beq_comm (a := key)]
    ac_rfl

namespace NestedBlock

/-- The same block, seen from outside of a block with a given key. -/
def under (key : String) (b : NestedBlock) : NestedBlock :=
  { b with path := key :: b.path }

/-- The keys that lead to a block, its own included. -/
def keys (b : NestedBlock) : List String :=
  b.path ++ [b.key]

/-- The block as keyframes. -/
def keyframes (b : NestedBlock) : Keyframes :=
  ⟨b.key, b.body⟩

/-- The block below a chain of media queries and those around it, without the other keys. -/
def withinMedia (chain : List String) (b : NestedBlock) : NestedBlock :=
  { b with path := chain ++ b.path.filter isMediaKey }

/-- The rule of a block below a selector. -/
def rule (parent : String) (combinator : Option String) (b : NestedBlock) : Rule :=
  Rule.ofLevel (selectorAt parent combinator b.keys) b.body

/-- The rule of a block below keyframes, where the selectors start with the offset. -/
def frameRule (b : NestedBlock) : Rule :=
  match b.path with
  | [] => Rule.ofLevel b.key b.body
  | offset :: inner => Rule.ofLevel (selectorAt offset none (inner ++ [b.key])) b.body

@[simp] theorem path_under (key : String) (b : NestedBlock) : (b.under key).path = key :: b.path :=
  rfl

@[simp] theorem key_under (key : String) (b : NestedBlock) : (b.under key).key = b.key := rfl

@[simp] theorem body_under (key : String) (b : NestedBlock) : (b.under key).body = b.body := rfl

@[simp] theorem keys_nil (key : String) (body : Declaration) : (mk [] key body).keys = [key] := rfl

@[simp] theorem keys_under (key : String) (b : NestedBlock) : (b.under key).keys = key :: b.keys :=
  rfl

/-- Below a block the selector of that block is the parent. -/
theorem rule_under (parent : String) (combinator : Option String) (key : String)
    (b : NestedBlock) :
    (b.under key).rule parent combinator = b.rule (composed parent combinator key) none := rfl

/-- Below an offset the selectors start with it. -/
theorem frameRule_under (offset : String) (b : NestedBlock) :
    (b.under offset).frameRule = b.rule offset none := rfl

@[simp] theorem keyframes_under (key : String) (b : NestedBlock) :
    (b.under key).keyframes = b.keyframes := rfl

end NestedBlock

namespace Declaration

/-- All blocks of a declaration, each before the blocks inside of it. -/
def nestedBlocks : Declaration → List NestedBlock
  | nil => []
  | cons key value rest =>
    (match value with
      | .block body => ⟨[], key, body⟩ :: body.nestedBlocks.map (NestedBlock.under key)
      | _ => []) ++ rest.nestedBlocks

theorem nestedBlocks_leaf {value : StyleValue} (hvalue : value.isBlock = false) (key : String)
    (rest : Declaration) : (cons key value rest).nestedBlocks = rest.nestedBlocks := by
  cases value <;> simp_all [nestedBlocks, StyleValue.isBlock, StyleValue.block?]

/-- A block stands in front of the blocks in it, and these in front of the rest. -/
theorem nestedBlocks_block (key : String) (body rest : Declaration) :
    (cons key (.block body) rest).nestedBlocks =
      ⟨[], key, body⟩ :: body.nestedBlocks.map (NestedBlock.under key) ++ rest.nestedBlocks := by
  rw [nestedBlocks]

/-- What a filter keeps of the blocks of an entry. -/
theorem filter_nestedBlocks_block (keep : NestedBlock → Bool) (key : String)
    (body rest : Declaration) :
    (cons key (.block body) rest).nestedBlocks.filter keep =
      (if keep ⟨[], key, body⟩ then [⟨[], key, body⟩] else []) ++
        (body.nestedBlocks.filter fun b => keep (b.under key)).map (NestedBlock.under key) ++
        rest.nestedBlocks.filter keep := by
  rw [nestedBlocks_block, List.filter_append, List.filter_cons, List.filter_map]
  split <;> rfl

/-- The blocks that stand directly in a declaration. -/
theorem mem_nestedBlocks_of_mem_entries {d : Declaration} {key : String} {body : Declaration}
    (h : (key, .block body) ∈ d.entries) : ⟨[], key, body⟩ ∈ d.nestedBlocks := by
  induction d using entry_induction with
  | nil => simp at h
  | leaf k value rest hvalue ih =>
    rw [entries_cons, List.mem_cons] at h
    rw [nestedBlocks_leaf hvalue]
    rcases h with h | h
    · obtain ⟨-, rfl⟩ := Prod.mk.inj h
      simp [StyleValue.isBlock, StyleValue.block?] at hvalue
    · exact ih h
  | block k inner rest _ ih =>
    rw [entries_cons, List.mem_cons] at h
    rw [nestedBlocks_block]
    rcases h with h | h
    · obtain ⟨rfl, hbody⟩ := Prod.mk.inj h
      obtain rfl := StyleValue.block.inj hbody
      simp
    · simp [ih h]

/-- A block inside of a block, seen from outside. -/
theorem mem_nestedBlocks_trans {d : Declaration} {b c : NestedBlock} (hb : b ∈ d.nestedBlocks)
    (hc : c ∈ b.body.nestedBlocks) : ⟨b.keys ++ c.path, c.key, c.body⟩ ∈ d.nestedBlocks := by
  induction d using entry_induction generalizing b with
  | nil => simp [nestedBlocks] at hb
  | leaf key value rest hvalue ih =>
    rw [nestedBlocks_leaf hvalue] at hb ⊢
    exact ih hb hc
  | block key body rest ihBody ihRest =>
    rw [nestedBlocks_block, List.mem_append, List.mem_cons, List.mem_map] at hb ⊢
    rcases hb with (rfl | ⟨inner, hinner, rfl⟩) | hb
    · exact .inl (.inr ⟨c, hc, rfl⟩)
    · exact .inl (.inr ⟨_, ihBody hinner hc, rfl⟩)
    · exact .inr (ihRest hb hc)

/-- The way to a block starts with a block that stands directly in the declaration. -/
theorem exists_entry_of_mem_nestedBlocks {d : Declaration} {b : NestedBlock}
    (hb : b ∈ d.nestedBlocks) :
    ∃ key body inner, (key, .block body) ∈ d.entries ∧ b.keys = key :: inner := by
  induction d using entry_induction with
  | nil => simp [nestedBlocks] at hb
  | leaf key value rest hvalue ih =>
    rw [nestedBlocks_leaf hvalue] at hb
    obtain ⟨first, body, inner, hmem, hkeys⟩ := ih hb
    exact ⟨first, body, inner, List.mem_cons_of_mem _ hmem, hkeys⟩
  | block key body rest _ ihRest =>
    rw [nestedBlocks_block, List.mem_append, List.mem_cons, List.mem_map] at hb
    rcases hb with (rfl | ⟨inner, _, rfl⟩) | hb
    · exact ⟨key, body, [], List.mem_cons_self, rfl⟩
    · exact ⟨key, body, inner.keys, List.mem_cons_self, rfl⟩
    · obtain ⟨first, body, inner, hmem, hkeys⟩ := ihRest hb
      exact ⟨first, body, inner, List.mem_cons_of_mem _ hmem, hkeys⟩

/-! ## Rules -/

/-- The nested rules of a declaration are those of its blocks, in order, as long as no key on the way
is a label or an at-rule. -/
theorem nestedRules_eq_filter (d : Declaration) (parent : String) (combinator : Option String) :
    d.nestedRules parent combinator =
      (d.nestedBlocks.filter fun b => b.keys.all isRuleKey).map
        (NestedBlock.rule parent combinator) := by
  induction d using entry_induction generalizing parent combinator with
  | nil => rfl
  | leaf key value rest hvalue ih =>
    rw [nestedRules_leaf hvalue, nestedBlocks_leaf hvalue]
    exact ih parent combinator
  | block key body rest ihBody ihRest =>
    rw [nestedRules_block, filter_nestedBlocks_block, List.map_append, List.map_append,
      List.map_map, ← ihRest parent combinator]
    congr 1
    cases hkey : isRuleKey key with
    | false =>
      rw [if_pos (isRuleKey_eq_false_iff.1 hkey)]
      simp [hkey]
    | true =>
      have hplain : ¬ (key = labelKey ∨ isMediaKey key = true ∨ isKeyframesKey key = true) := by
        rw [← isRuleKey_eq_false_iff, hkey]
        decide
      have hunder : NestedBlock.rule parent combinator ∘ NestedBlock.under key =
          NestedBlock.rule (composed parent combinator key) none :=
        funext (NestedBlock.rule_under parent combinator key)
      rw [if_neg hplain, rules, ihBody, hunder]
      simp only [NestedBlock.keys_nil, NestedBlock.keys_under, List.all_cons, hkey, List.all_nil,
        Bool.and_true, Bool.true_and, if_true, List.map_singleton]
      rfl

end Declaration

/-- The rules of a keyframes block are those of the blocks in it, in order, as long as no key after
the offset is a label or an at-rule. -/
theorem Keyframes.rules_eq_filter (name : String) (frames : Declaration) :
    (mk name frames).rules =
      (frames.nestedBlocks.filter fun b => b.keys.tail.all isRuleKey).map
        NestedBlock.frameRule := by
  induction frames using Declaration.entry_induction with
  | nil => rfl
  | leaf key value rest hvalue ih =>
    rw [rules_leaf hvalue, Declaration.nestedBlocks_leaf hvalue, ih]
  | block offset body rest _ ih =>
    have hunder : NestedBlock.frameRule ∘ NestedBlock.under offset =
        NestedBlock.rule offset none := funext (NestedBlock.frameRule_under offset)
    rw [rules_block, Declaration.filter_nestedBlocks_block, List.map_append, List.map_append,
      List.map_map, ih, Declaration.rules, Declaration.nestedRules_eq_filter, hunder]
    rfl

/-! ## Media queries -/

mutual

/-- The media queries of a forest as blocks, each below the media queries around it. -/
def MediaQuery.found (chain : List String) : MediaQuery → List NestedBlock
  | .mk query body nested => ⟨chain, query, body⟩ :: foundAll (chain ++ [query]) nested

/-- The media queries of several trees as blocks. -/
def MediaQuery.foundAll (chain : List String) : List MediaQuery → List NestedBlock
  | [] => []
  | media :: rest => media.found chain ++ foundAll chain rest

end

theorem MediaQuery.foundAll_append (chain : List String) (medias more : List MediaQuery) :
    foundAll chain (medias ++ more) = foundAll chain medias ++ foundAll chain more := by
  induction medias with
  | nil => rfl
  | cons media rest ih => simp only [List.cons_append, foundAll, ih, List.append_assoc]

namespace Declaration

/-- Below a chain of media queries, every media query outside of labels is found once, with the media
queries around it. -/
theorem foundAll_mediaQueries (d : Declaration) (chain : List String) :
    MediaQuery.foundAll chain d.mediaQueries =
      (d.nestedBlocks.filter fun b => isMediaKey b.key && !b.path.contains labelKey).map
        (NestedBlock.withinMedia chain) := by
  induction d using entry_induction generalizing chain with
  | nil => rfl
  | leaf key value rest hvalue ih =>
    rw [mediaQueries_leaf hvalue, nestedBlocks_leaf hvalue]
    exact ih chain
  | block key body rest ihBody ihRest =>
    rw [mediaQueries_block, MediaQuery.foundAll_append, filter_nestedBlocks_block, List.map_append,
      List.map_append, List.map_map, ← ihRest chain]
    congr 1
    by_cases hlabel : key = labelKey
    · subst hlabel
      simp [MediaQuery.foundAll]
    by_cases hmedia : isMediaKey key = true
    · rw [if_neg hlabel, if_pos hmedia, MediaQuery.foundAll, MediaQuery.foundAll, MediaQuery.found,
        ihBody]
      simp [hmedia, Ne.symm hlabel, NestedBlock.withinMedia]
    · rw [if_neg hlabel, if_neg hmedia, ihBody]
      simp [hmedia, Ne.symm hlabel, NestedBlock.withinMedia]

/-! ## Keyframes -/

/-- The keyframes that are found are those outside of labels and of other keyframes, each once. -/
theorem keyframes_eq_filter (d : Declaration) :
    d.keyframes =
      (d.nestedBlocks.filter fun b => isKeyframesKey b.key && !b.path.contains labelKey &&
        b.path.all (!isKeyframesKey ·)).map NestedBlock.keyframes := by
  induction d using entry_induction with
  | nil => rfl
  | leaf key value rest hvalue ih =>
    rw [keyframes_leaf hvalue, nestedBlocks_leaf hvalue, ih]
  | block key body rest ihBody ihRest =>
    rw [keyframes_block, filter_nestedBlocks_block, List.map_append, List.map_append,
      List.map_map, ← ihRest]
    congr 1
    by_cases hlabel : key = labelKey
    · subst hlabel
      simp
    by_cases hframes : isKeyframesKey key = true
    · rw [if_neg hlabel, if_pos hframes]
      simp [hframes, NestedBlock.keyframes]
    · rw [if_neg hlabel, if_neg hframes, ihBody]
      simp [hframes, Ne.symm hlabel]

/-- Whether keyframes hold offsets alone, outside of labels: no at-rule stands directly in keyframes,
and no keyframes stand anywhere below others. -/
def KeyframesHoldOffsets (d : Declaration) : Prop :=
  ∀ b ∈ d.nestedBlocks, labelKey ∉ b.path → isAtRuleKey b.key = true →
    (∀ parent ∈ b.path.getLast?, isKeyframesKey parent = false) ∧
      (isKeyframesKey b.key = true → ∀ key ∈ b.path, isKeyframesKey key = false)

instance (d : Declaration) : Decidable d.KeyframesHoldOffsets :=
  inferInstanceAs (Decidable (∀ b ∈ d.nestedBlocks, labelKey ∉ b.path → isAtRuleKey b.key = true →
    (∀ parent ∈ b.path.getLast?, isKeyframesKey parent = false) ∧
      (isKeyframesKey b.key = true → ∀ key ∈ b.path, isKeyframesKey key = false)))

/-- Then no at-rule stands where an offset is expected. -/
theorem KeyframesHoldOffsets.offset {d : Declaration} (h : d.KeyframesHoldOffsets) {k : Keyframes}
    (hk : k ∈ d.keyframes) {offset : String} {body : Declaration}
    (hmem : (offset, .block body) ∈ k.frames.entries) : isAtRuleKey offset = false := by
  rw [keyframes_eq_filter, List.mem_map] at hk
  obtain ⟨b, hb, rfl⟩ := hk
  obtain ⟨hb, hfound⟩ := List.mem_filter.1 hb
  have hinside := mem_nestedBlocks_trans hb (mem_nestedBlocks_of_mem_entries hmem)
  by_contra hoffset
  simp only [Bool.and_eq_true, Bool.not_eq_true', List.contains_eq_mem, decide_eq_false_iff_not]
    at hfound
  have hlabel : labelKey ∉ b.keys ++ [] := by
    simp [NestedBlock.keys, hfound.1.2, (ne_labelKey_of_isKeyframesKey hfound.1.1).symm]
  have hparent := (h _ hinside hlabel (by simpa using hoffset)).1 b.key (by simp [NestedBlock.keys])
  rw [hparent] at hfound
  simp at hfound

/-- Where keyframes hold offsets alone, every keyframes block outside of labels is found once, no
at-rule in it is taken for an offset, and it holds the rules below its offsets alone.  Every media
query outside of labels is found once too, also below keyframes. -/
theorem keyframes_eq_nestedBlocks {d : Declaration} (h : d.KeyframesHoldOffsets) :
    d.keyframes =
      (d.nestedBlocks.filter fun b => isKeyframesKey b.key && !b.path.contains labelKey).map
        NestedBlock.keyframes ∧
    (∀ k ∈ d.keyframes, ∀ offset body, (offset, .block body) ∈ k.frames.entries →
      isMediaKey offset = false ∧ isKeyframesKey offset = false) ∧
    (∀ k ∈ d.keyframes, k.rules =
      (k.frames.nestedBlocks.filter fun b =>
        b.keys.all (!isAtRuleKey ·) && !b.keys.tail.contains labelKey).map NestedBlock.frameRule) ∧
    MediaQuery.foundAll [] d.mediaQueries =
      (d.nestedBlocks.filter fun b => isMediaKey b.key && !b.path.contains labelKey).map
        (NestedBlock.withinMedia []) := by
  refine ⟨?_, ?_, ?_, foundAll_mediaQueries d []⟩
  · rw [keyframes_eq_filter]
    congr 1
    apply List.filter_congr
    intro b hb
    cases hfound : isKeyframesKey b.key && !b.path.contains labelKey with
    | false => rfl
    | true =>
      simp only [Bool.and_eq_true, Bool.not_eq_true', List.contains_eq_mem,
        decide_eq_false_iff_not] at hfound
      have houter := (h b hb hfound.2 (by simp [isAtRuleKey, hfound.1])).2 hfound.1
      simpa using houter
  · intro k hk offset body hmem
    simpa [isAtRuleKey] using h.offset hk hmem
  · intro k hk
    obtain ⟨name, frames⟩ := k
    rw [Keyframes.rules_eq_filter]
    congr 1
    apply List.filter_congr
    intro b hb
    obtain ⟨offset, body, inner, hmem, hkeys⟩ := exists_entry_of_mem_nestedBlocks hb
    have hoffset := h.offset hk hmem
    rw [hkeys, List.tail_cons, List.all_cons, hoffset, all_isRuleKey]
    rfl

/-- Keyframes below a media query and below a label, and a media query below an offset. -/
def sampleFrames : Declaration :=
  .cons "@keyframes spin" (.block (.cons "from" (.block (.cons "@media print" (.block
      (.cons "top" (.text "0") .nil)) (.cons "opacity" (.text "0") .nil))) .nil))
    (.cons "@media print" (.block (.cons "@keyframes fade" (.block (.cons "to" (.block
        (.cons "opacity" (.text "1") .nil)) .nil)) .nil))
      (.cons "label" (.block (.cons "@keyframes lost" (.block .nil) .nil)) .nil))

theorem keyframes_eq_nestedBlocks_sample :
    sampleFrames.KeyframesHoldOffsets ∧
    sampleFrames.keyframes =
      (sampleFrames.nestedBlocks.filter fun b =>
        isKeyframesKey b.key && !b.path.contains labelKey).map NestedBlock.keyframes ∧
    MediaQuery.foundAll [] sampleFrames.mediaQueries =
      (sampleFrames.nestedBlocks.filter fun b =>
        isMediaKey b.key && !b.path.contains labelKey).map (NestedBlock.withinMedia []) := by
  have hoffsets : sampleFrames.KeyframesHoldOffsets := by decide
  obtain ⟨hframes, _, _, hmedia⟩ := keyframes_eq_nestedBlocks hoffsets
  exact ⟨hoffsets, hframes, hmedia⟩

/-- A media query directly in keyframes, and keyframes below an offset of others. -/
def strayAtRules : Declaration :=
  .cons "@keyframes a" (.block (.cons "@media print" (.block (.cons "margin-top" (.text "0") .nil))
    (.cons "from" (.block (.cons "@keyframes b" (.block (.cons "to" (.block
        (.cons "margin-top" (.text "1em") .nil)) .nil)) (.cons "margin-top" (.text "2em") .nil))) .nil))) .nil

/-- The inner keyframes are not found, and the media query is written twice: on its own, and as an
offset. -/
theorem css_strayAtRules :
    strayAtRules.keyframes.map (·.name) = ["@keyframes a"] ∧
    (strayAtRules.nestedBlocks.filter fun b =>
      isKeyframesKey b.key && !b.path.contains labelKey).map (·.key) =
        ["@keyframes a", "@keyframes b"] ∧
    (Record.ofModule (.ofList [("a", strayAtRules)])).css =
      "@media print \x7b\n  .a \x7b\n    margin-top: 0;\n  \x7d\n\x7d\n\n@keyframes a \x7b\n" ++
        "  @media print \x7b\n    margin-top: 0;\n  \x7d\n" ++
        "  from \x7b\n    margin-top: 2em;\n  \x7d\n\x7d" := by
  refine ⟨by decide, by decide, ?_⟩
  rw [Record.css_eq_intercalate (by decide +kernel)]
  decide +kernel

end Declaration

end StyleObjects
