import StyleObjects.Proofs.LastWrites
import StyleObjects.Proofs.NestedBlocks

/-!
# The forest behind an outline

The outline of a record follows the walks of the compiler.  Here it is told without them, by the
blocks that a declaration holds and the keys that lead to each.  The blocks are listed in pre-order,
which is the lexicographic order of these keys.  Of them the outline takes the blocks whose keys are
all those of rules, the media queries that stand in no other one, and the keyframes that stand in no
others.

Main results:

- `Record.eq_compiled_iff`: the compiled objects are those that are not ignored, by ascending name.
- `Declaration.mem_nestedBlocks_iff`, `Declaration.nestedBlocks_ascending`: the blocks are those that
  some keys lead to, in the order of the keys.
- `Declaration.outline_eq_preorder`: the rules of an object are its own level and then the rules of
  its blocks in pre-order; media queries and keyframes follow.
- `NestedBlock.outline_mediaQuery`, `NestedBlock.isWritten_mediaQuery_iff`: the content of a media
  query, and when it is left out.
-/

namespace StyleObjects

/-! ## Objects -/

/-- The compiled objects are those of the module that are not ignored, by ascending name, and no
other list has them in that order. -/
theorem Record.eq_compiled_iff {r : Record} {objects : List (String × Declaration)} :
    objects = r.compiled ↔
      Ascending objects ∧
        ∀ name d, (name, d) ∈ objects ↔ r.styles.get? name = some d ∧ name ∉ r.ignore := by
  have hascending : Ascending r.compiled := r.styles.objects.ascending.filter _
  have hmem : ∀ name d,
      (name, d) ∈ r.compiled ↔ r.styles.get? name = some d ∧ name ∉ r.ignore := by
    intro name d
    rw [compiled, List.mem_filter]
    refine and_congr r.styles.objects.ascending.mem_iff ?_
    simp [isIgnored]
  constructor
  · rintro rfl
    exact ⟨hascending, hmem⟩
  · rintro ⟨hobjects, hsame⟩
    refine hobjects.ext hascending fun name => Option.ext fun d => ?_
    rw [← hobjects.mem_iff, ← hascending.mem_iff, hsame, hmem]

/-! ## Blocks in pre-order -/

namespace NestedBlock

/-- The keys that lead to a block are not empty. -/
theorem keys_ne_nil (b : NestedBlock) : b.keys ≠ [] := by
  simp [keys]

/-- A block is known from its place under a key. -/
theorem under_injective (key : String) : Function.Injective (under key) := by
  rintro ⟨path, last, body⟩ ⟨path', last', body'⟩ h
  cases h
  rfl

/-- No block in another one stands at the top. -/
theorem top_not_mem_map_under {key first : String} {body : Declaration}
    {blocks : List NestedBlock} : mk [] key body ∉ blocks.map (under first) := by
  intro hb
  obtain ⟨b, -, hb⟩ := List.mem_map.1 hb
  cases congrArg path hb

end NestedBlock

namespace Declaration

/-- The block that keys lead to, from the outermost key to its own. -/
def blockAt? : List String → Declaration → Option Declaration
  | [], d => some d
  | key :: keys, d => ((d.get? key).bind StyleValue.block?).bind (blockAt? keys)

/-- A way of some keys into a declaration goes into its first entry, or passes it. -/
theorem blockAt?_cons (key first : String) (value : StyleValue) (rest : Declaration)
    (keys : List String) :
    (cons key value rest).blockAt? (first :: keys) =
      if key = first then value.block?.bind (blockAt? keys) else rest.blockAt? (first :: keys) := by
  rw [blockAt?, get?]
  split <;> rfl

/-- In an ordered declaration the ways to the blocks of later entries start with later keys. -/
theorem Ordered.lt_of_mem_nestedBlocks {key : String} {value : StyleValue} {rest : Declaration}
    (h : (cons key value rest).Ordered) {b : NestedBlock} (hb : b ∈ rest.nestedBlocks) :
    ∃ first keys, b.keys = first :: keys ∧ key < first := by
  obtain ⟨first, body, keys, hmem, hkeys⟩ := exists_entry_of_mem_nestedBlocks hb
  exact ⟨first, keys, hkeys, h.1 first (List.mem_map_of_mem hmem)⟩

/-- Where the first entry is no block, no keys lead into it. -/
theorem blockAt?_leaf {value : StyleValue} (hvalue : value.isBlock = false) (key : String)
    (keys : List String) (rest : Declaration) :
    (cons key value rest).blockAt? (key :: keys) = none := by
  have hnone : value.block? = none := by simpa [StyleValue.isBlock] using hvalue
  rw [blockAt?_cons, if_pos rfl, hnone, Option.bind_none]

/-- So none of them starts with the key of the first entry. -/
theorem Ordered.head?_keys_ne {key : String} {value : StyleValue} {rest : Declaration}
    (h : (cons key value rest).Ordered) {b : NestedBlock} (hb : b ∈ rest.nestedBlocks) :
    b.keys.head? ≠ some key := by
  obtain ⟨first, keys, hkeys, hlt⟩ := h.lt_of_mem_nestedBlocks hb
  rw [hkeys, List.head?_cons, ne_eq, Option.some.injEq]
  exact (String.ne_of_lt hlt).symm

/-- A block whose way starts with another key than that of the first entry stands in the rest. -/
theorem mem_nestedBlocks_rest_iff {key : String} {body rest : Declaration} {b : NestedBlock}
    (h : b.keys.head? ≠ some key) :
    b ∈ (cons key (.block body) rest).nestedBlocks ↔ b ∈ rest.nestedBlocks := by
  rw [nestedBlocks_block, List.mem_append, or_iff_right]
  intro hb
  rcases List.mem_cons.1 hb with rfl | hb
  · exact h rfl
  · obtain ⟨c, -, rfl⟩ := List.mem_map.1 hb
    exact h rfl

/-- Under its own key alone, the block of the first entry is the only one. -/
theorem Ordered.mem_nestedBlocks_top {key : String} {body rest : Declaration}
    (h : (cons key (.block body) rest).Ordered) {inner : Declaration} :
    NestedBlock.mk [] key inner ∈ (cons key (.block body) rest).nestedBlocks ↔ body = inner := by
  have hrest : NestedBlock.mk [] key inner ∉ rest.nestedBlocks := fun hb => h.head?_keys_ne hb rfl
  rw [nestedBlocks_block, List.mem_append, or_iff_left hrest, List.mem_cons,
    or_iff_left NestedBlock.top_not_mem_map_under]
  constructor
  · intro hb
    cases hb
    rfl
  · rintro rfl
    rfl

/-- The blocks inside of the first entry are those of its block. -/
theorem Ordered.under_mem_nestedBlocks {key : String} {body rest : Declaration}
    (h : (cons key (.block body) rest).Ordered) {b : NestedBlock} :
    b.under key ∈ (cons key (.block body) rest).nestedBlocks ↔ b ∈ body.nestedBlocks := by
  have hrest : b.under key ∉ rest.nestedBlocks := fun hb => h.head?_keys_ne hb rfl
  have htop : b.under key ≠ ⟨[], key, body⟩ := by
    intro hb
    cases congrArg NestedBlock.path hb
  rw [nestedBlocks_block, List.mem_append, or_iff_left hrest, List.mem_cons, or_iff_right htop,
    List.mem_map_of_injective (NestedBlock.under_injective key)]

/-- The blocks of an ordered declaration are those that some keys lead to. -/
theorem mem_nestedBlocks_iff {d : Declaration} (h : d.Ordered) {b : NestedBlock} :
    b ∈ d.nestedBlocks ↔ d.blockAt? b.keys = some b.body := by
  obtain ⟨path, last, inner⟩ := b
  obtain ⟨first, keys, hkeys⟩ :=
    List.exists_cons_of_ne_nil (NestedBlock.mk path last inner).keys_ne_nil
  induction d using entry_induction generalizing path first keys with
  | nil => simp [nestedBlocks, hkeys, blockAt?, get?]
  | leaf key value rest hvalue ih =>
    rw [nestedBlocks_leaf hvalue]
    by_cases hkey : key = first
    · subst hkey
      rw [hkeys, blockAt?_leaf hvalue]
      simp only [reduceCtorEq, iff_false]
      intro hb
      exact h.head?_keys_ne hb (by rw [hkeys, List.head?_cons])
    · rw [ih h.2.2 path first keys hkeys, hkeys, blockAt?_cons, if_neg hkey]
  | block key body rest ihBody ihRest =>
    by_cases hkey : key = first
    · subst hkey
      rw [hkeys, blockAt?_cons, if_pos rfl, StyleValue.block?, Option.bind_some]
      -- a block is that of the first entry itself, or stands in it
      cases path with
      | nil =>
        obtain ⟨rfl, rfl⟩ := List.cons.inj hkeys
        rw [h.mem_nestedBlocks_top, blockAt?, Option.some.injEq]
      | cons outer path =>
        obtain ⟨rfl, rfl⟩ := List.cons.inj hkeys
        obtain ⟨next, more, hmore⟩ :=
          List.exists_cons_of_ne_nil (NestedBlock.mk path last inner).keys_ne_nil
        exact h.under_mem_nestedBlocks.trans (ihBody h.2.1 path next more hmore)
    · have hother : (NestedBlock.mk path last inner).keys.head? ≠ some key := by
        rw [hkeys, List.head?_cons, ne_eq, Option.some.injEq]
        exact Ne.symm hkey
      rw [mem_nestedBlocks_rest_iff hother, ihRest h.2.2 path first keys hkeys, hkeys, blockAt?_cons,
        if_neg hkey]

/-- The blocks of an ordered declaration are listed in the lexicographic order of the keys that lead
to them, so each block stands in front of those in it. -/
theorem nestedBlocks_ascending {d : Declaration} (h : d.Ordered) :
    d.nestedBlocks.Pairwise fun b c => b.keys < c.keys := by
  induction d using entry_induction with
  | nil => exact .nil
  | leaf key value rest hvalue ih =>
    rw [nestedBlocks_leaf hvalue]
    exact ih h.2.2
  | block key body rest ihBody ihRest =>
    rw [nestedBlocks_block, List.pairwise_append, List.pairwise_cons, List.pairwise_map]
    refine ⟨⟨?_, ?_⟩, ihRest h.2.2, ?_⟩
    · intro b hb
      obtain ⟨c, -, rfl⟩ := List.mem_map.1 hb
      obtain ⟨first, keys, hkeys⟩ := List.exists_cons_of_ne_nil c.keys_ne_nil
      rw [NestedBlock.keys_nil, NestedBlock.keys_under, hkeys]
      exact .cons .nil
    · refine (ihBody h.2.1).imp ?_
      intro b c hlt
      exact .cons hlt
    · intro b hb c hc
      obtain ⟨first, keys, hkeys, hlt⟩ := h.lt_of_mem_nestedBlocks hc
      rw [hkeys]
      rcases List.mem_cons.1 hb with rfl | hb
      · exact .rel hlt
      · obtain ⟨inner, -, rfl⟩ := List.mem_map.1 hb
        exact .rel hlt

/-! ## Rules, media queries and keyframes -/

end Declaration

namespace NestedBlock

/-- Whether a block is a media query outside of labels and of other media queries. -/
def isOuterMedia (b : NestedBlock) : Bool :=
  isMediaKey b.key && !b.path.contains labelKey && b.path.all (!isMediaKey ·)

/-- Whether a block is a keyframes block outside of labels and of other keyframes. -/
def isOuterKeyframes (b : NestedBlock) : Bool :=
  isKeyframesKey b.key && !b.path.contains labelKey && b.path.all (!isKeyframesKey ·)

/-- The block as a media query. -/
def mediaQuery (b : NestedBlock) : MediaQuery :=
  .mk b.key b.body b.body.mediaQueries

@[simp] theorem mediaQuery_under (key : String) (b : NestedBlock) :
    (b.under key).mediaQuery = b.mediaQuery := rfl

@[simp] theorem isOuterMedia_nil (key : String) (body : Declaration) :
    (mk [] key body).isOuterMedia = isMediaKey key := by
  simp [isOuterMedia]

/-- Inside of a label or of a media query no media query is an outer one. -/
@[simp] theorem isOuterMedia_under (key : String) (b : NestedBlock) :
    (b.under key).isOuterMedia = (key != labelKey && !isMediaKey key && b.isOuterMedia) := by
  rw [isOuterMedia, isOuterMedia, path_under, key_under, List.contains_cons, List.all_cons,
    Bool.beq_comm, Bool.not_or, bne]
  ac_rfl

end NestedBlock

namespace Declaration

/-- The rules of a declaration are its own level and then the rules of its blocks in pre-order, as
long as all keys on the way are those of rules. -/
theorem rules_eq_preorder (d : Declaration) (selector : String) (combinator : Option String) :
    d.rules selector combinator =
      Rule.ofLevel selector d :: (d.nestedBlocks.filter fun b => b.keys.all isRuleKey).map
        (NestedBlock.rule selector combinator) := by
  rw [rules, nestedRules_eq_filter]

/-- The media queries of a declaration are those that stand in no other one, in pre-order. -/
theorem mediaQueries_eq_filter (d : Declaration) :
    d.mediaQueries = (d.nestedBlocks.filter NestedBlock.isOuterMedia).map
      NestedBlock.mediaQuery := by
  induction d using entry_induction with
  | nil => rfl
  | leaf key value rest hvalue ih => rw [mediaQueries_leaf hvalue, nestedBlocks_leaf hvalue, ih]
  | block key body rest ihBody ihRest =>
    rw [mediaQueries_block, filter_nestedBlocks_block, List.map_append, List.map_append,
      List.map_map, ← ihRest]
    congr 1
    by_cases hlabel : key = labelKey
    · subst hlabel
      simp
    by_cases hmedia : isMediaKey key = true
    · rw [if_neg hlabel, if_pos hmedia]
      simp [hmedia, NestedBlock.mediaQuery]
    · rw [if_neg hlabel, if_neg hmedia, ihBody]
      have hne : (key != labelKey) = true := by simpa using hlabel
      simp [hne, hmedia, Function.comp_def]

/-- The outline of an object: its own level and its nested rules in pre-order, then its outer media
queries, then its outer keyframes. -/
theorem outline_eq_preorder (d : Declaration) (scope : Scope) :
    d.outline scope =
      (Rule.ofLevel scope.selector d :: (d.nestedBlocks.filter fun b => b.keys.all isRuleKey).map
        (NestedBlock.rule scope.selector scope.combinator)).flatMap (·.outline scope.label) ++
      (d.nestedBlocks.filter NestedBlock.isOuterMedia).flatMap (·.mediaQuery.outline scope) ++
      (d.nestedBlocks.filter NestedBlock.isOuterKeyframes).flatMap (·.keyframes.outline) := by
  rw [outline, rules_eq_preorder, MediaQuery.outlineAll_eq_flatMap, mediaQueries_eq_filter,
    List.flatMap_map, keyframes_eq_filter, List.flatMap_map]
  rfl

end Declaration

/-! ## The content of a media query -/

mutual

/-- A media query is written if a rule is written in it or in one of those inside of it. -/
theorem MediaQuery.isWritten_iff_found (scope : Scope) (chain : List String) :
    ∀ media : MediaQuery, media.isWritten scope = true ↔
      ∃ b ∈ media.found chain, (b.body.rules scope.selector scope.combinator).any Rule.isWritten = true
  | .mk query body nested => by
    rw [isWritten, Bool.or_eq_true, anyWritten_iff_found scope (chain ++ [query]) nested, found]
    simp only [List.mem_cons, exists_eq_or_imp]

/-- So for several media queries. -/
theorem MediaQuery.anyWritten_iff_found (scope : Scope) (chain : List String) :
    ∀ medias : List MediaQuery, anyWritten scope medias = true ↔
      ∃ b ∈ foundAll chain medias,
        (b.body.rules scope.selector scope.combinator).any Rule.isWritten = true
  | [] => by simp [anyWritten, foundAll]
  | media :: rest => by
    rw [anyWritten, Bool.or_eq_true, isWritten_iff_found scope chain media,
      anyWritten_iff_found scope chain rest, foundAll]
    simp [or_and_right, exists_or]

end

namespace NestedBlock

/-- A media query is written if a rule is written on its own level, or in some media query in it that
stands outside of labels. -/
theorem isWritten_mediaQuery_iff (b : NestedBlock) (scope : Scope) :
    b.mediaQuery.isWritten scope = true ↔
      (∃ rule ∈ b.body.rules scope.selector scope.combinator, rule.isWritten = true) ∨
      ∃ c ∈ b.body.nestedBlocks, isMediaKey c.key = true ∧ labelKey ∉ c.path ∧
        ∃ rule ∈ c.body.rules scope.selector scope.combinator, rule.isWritten = true := by
  rw [MediaQuery.isWritten_iff_found scope [], mediaQuery, MediaQuery.found,
    Declaration.foundAll_mediaQueries]
  simp [withinMedia, and_assoc]

/-- The outline of a media query: its own level and its nested rules, then the media queries that
stand in it and in no other one. -/
theorem outline_mediaQuery (b : NestedBlock) (scope : Scope) :
    b.mediaQuery.outline scope =
      if b.mediaQuery.isWritten scope then
        [.block none b.key
          ((b.body.rules scope.selector scope.combinator).flatMap (·.outline scope.label) ++
            (b.body.nestedBlocks.filter isOuterMedia).flatMap (·.mediaQuery.outline scope))]
      else [] := by
  rw [mediaQuery, MediaQuery.outline, MediaQuery.outlineAll_eq_flatMap,
    Declaration.mediaQueries_eq_filter, List.flatMap_map]

end NestedBlock

end StyleObjects
