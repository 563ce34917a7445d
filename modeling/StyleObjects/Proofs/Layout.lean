import StyleObjects.Proofs.Outline

/-!
# The outline of a sheet

The compiler means an outline: for every object the rules that hold a declaration, then the media
queries and the keyframes blocks that hold such a rule.  Its layout shows that outline, at every
depth and for every way in which blocks are put below each other.

Main results:

- `Shows.lays`: lines that show some nodes are laid out well.
- `shows_separated_append`, `shows_separated_map`: the blocks of a level show their nodes together.
- `MediaQuery.shows_layout`, `Keyframes.shows_layout`: at-rules show their blocks.
- `Record.shows_blocks`: the blocks of a record show its outline.
-/

namespace StyleObjects

/-! ## What the compiler means -/

/-- Whether a rule has a declaration, so that it is written. -/
def Rule.isWritten (rule : Rule) : Bool :=
  !rule.declarations.isEmpty

/-- The block of a rule, if the rule is written. -/
def Rule.outline (label : Option String) (rule : Rule) : List Outline :=
  if rule.isWritten then
    [.block label rule.selector (rule.declarations.map .declaration)]
  else []

mutual

/-- Whether a rule is written in a media query or in one inside of it. -/
def MediaQuery.isWritten (scope : Scope) : MediaQuery → Bool
  | .mk _ body nested =>
    (body.rules scope.selector scope.combinator).any Rule.isWritten || anyWritten scope nested

/-- Whether a rule is written in one of several media queries. -/
def MediaQuery.anyWritten (scope : Scope) : List MediaQuery → Bool
  | [] => false
  | media :: rest => media.isWritten scope || anyWritten scope rest

end

mutual

/-- The block of a media query, if a rule is written in it: its own rules, then the media queries
inside of it. -/
def MediaQuery.outline (scope : Scope) : MediaQuery → List Outline
  | .mk query body nested =>
    if MediaQuery.isWritten scope (.mk query body nested) then
      [.block none query
        ((body.rules scope.selector scope.combinator).flatMap (·.outline scope.label) ++
          outlineAll scope nested)]
    else []

/-- The blocks of several media queries. -/
def MediaQuery.outlineAll (scope : Scope) : List MediaQuery → List Outline
  | [] => []
  | media :: rest => media.outline scope ++ outlineAll scope rest

end

theorem MediaQuery.outlineAll_eq_flatMap (scope : Scope) (medias : List MediaQuery) :
    outlineAll scope medias = medias.flatMap (·.outline scope) := by
  induction medias with
  | nil => rfl
  | cons media rest ih => rw [outlineAll, ih, List.flatMap_cons]

/-- The block of a keyframes block, if a rule is written in it. -/
def Keyframes.outline (k : Keyframes) : List Outline :=
  if k.rules.any Rule.isWritten then [.block none k.name (k.rules.flatMap (·.outline none))]
  else []

/-- The outline of a declaration: rules, media queries, keyframes. -/
def Declaration.outline (d : Declaration) (scope : Scope) : List Outline :=
  (d.rules scope.selector scope.combinator).flatMap (·.outline scope.label) ++
    MediaQuery.outlineAll scope d.mediaQueries ++ d.keyframes.flatMap (·.outline)

/-- The outline of a record, object by object. -/
def Record.outline (r : Record) : List Outline :=
  r.compiled.flatMap fun e => e.2.outline (r.scope e.1)

/-! ## Blocks below each other -/

@[simp] theorem separated_nil : separated [] = [] := rfl

@[simp] theorem separated_singleton (block : List String) : separated [block] = block := by
  cases block <;> simp [separated]

/-- Blocks have no lines together exactly if none of them has lines. -/
theorem separated_eq_nil_iff {blocks : List (List String)} :
    separated blocks = [] ↔ ∀ block ∈ blocks, block = [] := by
  constructor
  · intro h block hblock
    by_contra hne
    have hkept : block ∈ blocks.filter fun block => !block.isEmpty := by simpa [hne] using hblock
    rw [separated] at h
    generalize hall : (blocks.filter fun block => !block.isEmpty) = kept at h hkept
    match kept with
    | [] => simp at hkept
    | [only] =>
      simp only [List.intercalate_singleton] at h
      simp_all
    | first :: second :: rest => simp at h
  · intro h
    have hkept : (blocks.filter fun block => !block.isEmpty) = [] := by
      simpa [List.filter_eq_nil_iff] using h
    simp [separated, hkept]

/-- Two lists of blocks, neither of them empty, are joined with a separator in between. -/
theorem intercalate_append_of_ne_nil {between : List String} {blocks more : List (List String)}
    (hblocks : blocks ≠ []) (hmore : more ≠ []) :
    between.intercalate (blocks ++ more) =
      between.intercalate blocks ++ between ++ between.intercalate more := by
  induction blocks with
  | nil => exact absurd rfl hblocks
  | cons block rest ih =>
    by_cases hrest : rest = []
    · simp [hrest, List.intercalate_cons_of_ne_nil hmore]
    · rw [List.cons_append, List.intercalate_cons_of_ne_nil (by simp [hrest]), ih hrest,
        List.intercalate_cons_of_ne_nil hrest]
      simp

/-- Between lists of blocks stands an empty line, if both have lines. -/
theorem separated_append (blocks more : List (List String)) :
    separated (blocks ++ more) =
      if separated blocks = [] then separated more
      else if separated more = [] then separated blocks
      else separated blocks ++ "" :: separated more := by
  have hnil {blocks : List (List String)} :
      separated blocks = [] ↔ (blocks.filter fun block => !block.isEmpty) = [] := by
    rw [separated_eq_nil_iff, List.filter_eq_nil_iff]
    simp
  by_cases hblocks : separated blocks = []
  · rw [if_pos hblocks, separated, List.filter_append, hnil.1 hblocks, List.nil_append, separated]
  by_cases hmore : separated more = []
  · rw [if_neg hblocks, if_pos hmore, separated, List.filter_append, hnil.1 hmore, List.append_nil,
      separated]
  · rw [if_neg hblocks, if_neg hmore]
    rw [hnil] at hblocks hmore
    rw [separated, List.filter_append, intercalate_append_of_ne_nil hblocks hmore]
    simp [separated]

/-! ## Lines in braces -/

/-- The lines of a text as characters. -/
def characters (lines : List String) : List (List Char) :=
  lines.map String.toList

/-- The indentation at a depth, as characters. -/
theorem toList_indent (depth : Nat) : (indent depth).toList = lineMargin depth := by
  induction depth with
  | zero => rfl
  | succ depth ih =>
    simp [indent, indentStep, ih, lineMargin, Nat.mul_succ, List.replicate_succ]

/-- What a line is, its last characters tell. -/
theorem lineKind?_append {front mark : List Char} (hmark : mark ≠ []) :
    lineKind? (front ++ mark) = lineKind? mark := by
  simp [lineKind?, List.getLast?_append_of_ne_nil _ hmark]

/-- The line of a declaration. -/
theorem lays_declaration (depth : Nat) (text : String) :
    Lays depth (characters [indent depth ++ text ++ ";"]) [.declaration text] := by
  have hline : (indent depth ++ text ++ ";").toList = lineMargin depth ++ text.toList ++ [';'] := by
    simp [toList_indent]
  have hkind : lineKind? (lineMargin depth ++ text.toList ++ [';']) = some .declaration :=
    lineKind?_append (by simp)
  have hmargin : lineMargin depth <+: lineMargin depth ++ text.toList ++ [';'] :=
    ⟨text.toList ++ [';'], by simp⟩
  have hinner : inner (2 * depth) 1 (lineMargin depth ++ text.toList ++ [';']) = text :=
    inner_append (by simp [lineMargin]) rfl
  have hdeclaration := Lays.declaration hkind hmargin
  rw [hinner, ← hline] at hdeclaration
  exact hdeclaration

/-- Lines in braces below a header, with a label in front or without one. -/
theorem lays_braced {depth : Nat} {content : List String} {nodes : List Outline}
    (label : Option String) (header : String) (hcontent : content ≠ [])
    (h : Lays (depth + 1) (characters content) nodes) :
    Lays depth
      (characters ((label.map (labelLine depth)).toList ++ [indent depth ++ header ++ " \x7b"] ++
        content ++ [indent depth ++ "\x7d"]))
      [.block label header nodes] := by
  have hopening : (indent depth ++ header ++ " \x7b").toList =
      lineMargin depth ++ header.toList ++ [' ', '\x7b'] := by
    simp [toList_indent]
  have hclosing : (indent depth ++ "\x7d").toList = lineMargin depth ++ ['\x7d'] := by
    simp [toList_indent]
  have hopenKind : lineKind? (lineMargin depth ++ header.toList ++ [' ', '\x7b']) =
      some .opening := lineKind?_append (by simp)
  have hcloseKind : lineKind? (lineMargin depth ++ ['\x7d']) = some .closing :=
    lineKind?_append (by simp)
  have hheader : inner (2 * depth) 2 (lineMargin depth ++ header.toList ++ [' ', '\x7b']) =
      header := inner_append (by simp [lineMargin]) rfl
  have hcharacters : characters content ≠ [] := by simpa [characters] using hcontent
  cases label with
  | none =>
    have hblock := h.block hopenKind ⟨header.toList ++ [' ', '\x7b'], by simp⟩ hcloseKind
      ⟨['\x7d'], rfl⟩ hcharacters
    rw [hheader] at hblock
    simpa [characters, hopening, hclosing] using hblock
  | some label =>
    have hlabel : (labelLine depth label).toList =
        (lineMargin depth ++ ['/', '*', ' ']) ++ label.toList ++ [' ', '*', '/'] := by
      simp [labelLine, toList_indent]
    have hlabelKind : lineKind? (lineMargin depth ++ ['/', '*', ' '] ++ label.toList ++
        [' ', '*', '/']) = some .label := lineKind?_append (by simp)
    have hname : inner (2 * depth + 3) 3 (lineMargin depth ++ ['/', '*', ' '] ++ label.toList ++
        [' ', '*', '/']) = label := inner_append (by simp [lineMargin]) rfl
    have hblock := h.labelled hlabelKind ⟨['/', '*', ' '] ++ label.toList ++ [' ', '*', '/'], by simp⟩
      hopenKind ⟨header.toList ++ [' ', '\x7b'], by simp⟩ hcloseKind ⟨['\x7d'], rfl⟩ hcharacters
    rw [hheader, hname] at hblock
    simpa [characters, hopening, hclosing, hlabel] using hblock

/-! ## Lines that show nodes -/

/-- Lines at a depth that show some nodes.  A declaration has one line.  A block has its header and
a closing brace around its content, and directly above the header the label, if it has one; all
three are indented for the depth.  Nothing else is written but single empty lines between nodes. -/
inductive Shows : Nat → List String → List Outline → Prop where
  | nil {depth : Nat} : Shows depth [] []
  | declaration {depth : Nat} (text : String) :
    Shows depth [indent depth ++ text ++ ";"] [.declaration text]
  | block {depth : Nat} {content : List String} {nodes : List Outline} (label : Option String)
    (header : String) (hcontent : content ≠ []) (inside : Shows (depth + 1) content nodes) :
    Shows depth
      ((label.map (labelLine depth)).toList ++ [indent depth ++ header ++ " \x7b"] ++ content ++
        [indent depth ++ "\x7d"])
      [.block label header nodes]
  | append {depth : Nat} {lines more : List String} {nodes others : List Outline}
    (first : Shows depth lines nodes) (second : Shows depth more others) :
    Shows depth (lines ++ more) (nodes ++ others)
  | gap {depth : Nat} {lines more : List String} {nodes others : List Outline} (hlines : lines ≠ [])
    (hmore : more ≠ []) (first : Shows depth lines nodes) (second : Shows depth more others) :
    Shows depth (lines ++ "" :: more) (nodes ++ others)

/-- Lines that show nodes are laid out well. -/
theorem Shows.lays {depth : Nat} {lines : List String} {nodes : List Outline}
    (h : Shows depth lines nodes) : Lays depth (characters lines) nodes := by
  induction h with
  | nil => exact .nil
  | declaration text => exact lays_declaration _ text
  | block label header hcontent _ ih => exact lays_braced label header hcontent ih
  | append _ _ ih ihMore =>
    rw [characters, List.map_append]
    exact ih.append ihMore
  | gap hlines hmore _ _ ih ihMore =>
    rw [characters, List.map_append, List.map_cons]
    exact ih.gap (by simpa [characters] using hlines) (by simpa [characters] using hmore) ihMore

/-- Without lines there are no nodes. -/
theorem Shows.nodes_eq_nil {depth : Nat} {nodes : List Outline} (h : Shows depth [] nodes) :
    nodes = [] :=
  h.lays.reads.nodes_eq_nil

/-- The lines of some declarations. -/
theorem shows_declarations (depth : Nat) (declarations : List String) :
    Shows depth (declarations.map fun line => indent depth ++ line ++ ";")
      (declarations.map .declaration) := by
  induction declarations with
  | nil => exact .nil
  | cons text rest ih => exact (Shows.declaration text).append ih

/-! ## Blocks that show nodes -/

/-- Lists of blocks that show nodes do so together. -/
theorem shows_separated_append {depth : Nat} {blocks more : List (List String)}
    {nodes others : List Outline} (h : Shows depth (separated blocks) nodes)
    (hmore : Shows depth (separated more) others) :
    Shows depth (separated (blocks ++ more)) (nodes ++ others) := by
  rw [separated_append]
  by_cases hblocks : separated blocks = []
  · rw [hblocks] at h
    rw [if_pos hblocks, h.nodes_eq_nil]
    exact hmore
  by_cases hnone : separated more = []
  · rw [hnone] at hmore
    rw [if_neg hblocks, if_pos hnone, hmore.nodes_eq_nil, List.append_nil]
    exact h
  · rw [if_neg hblocks, if_neg hnone]
    exact h.gap hblocks hnone hmore

/-- If the blocks of each item show its nodes, then the blocks of all items show all nodes. -/
theorem shows_separated_flatMap {α : Type} {depth : Nat} {items : List α}
    {blocks : α → List (List String)} {nodes : α → List Outline}
    (h : ∀ item ∈ items, Shows depth (separated (blocks item)) (nodes item)) :
    Shows depth (separated (items.flatMap blocks)) (items.flatMap nodes) := by
  induction items with
  | nil => exact .nil
  | cons item items ih =>
    rw [List.flatMap_cons, List.flatMap_cons]
    exact shows_separated_append (h item (by simp))
      (ih fun other hother => h other (by simp [hother]))

/-- If each item is one block that shows its nodes, then all of them show all nodes. -/
theorem shows_separated_map {α : Type} {depth : Nat} {items : List α} {block : α → List String}
    {nodes : α → List Outline} (h : ∀ item ∈ items, Shows depth (block item) (nodes item)) :
    Shows depth (separated (items.map block)) (items.flatMap nodes) := by
  rw [List.map_eq_flatMap]
  refine shows_separated_flatMap ?_
  intro item hitem
  rw [separated_singleton]
  exact h item hitem

/-! ## Rules and at-rules -/

/-- The lines of a rule show its block, at any depth. -/
theorem Rule.shows_layout (depth : Nat) (label : Option String) (rule : Rule) :
    Shows depth (rule.layout depth label) (rule.outline label) := by
  by_cases hnone : rule.declarations.isEmpty
  · rw [layout, if_pos hnone, outline, isWritten, hnone]
    exact .nil
  · rw [layout, if_neg hnone, outline, isWritten, if_pos (by simpa using hnone)]
    exact .block label rule.selector (by simpa using hnone) (shows_declarations _ _)

/-- The lines of the rules of one level show their blocks. -/
theorem Rule.shows_separated (depth : Nat) (label : Option String) (rules : List Rule) :
    Shows depth (separated (rules.map (·.layout depth label))) (rules.flatMap (·.outline label)) :=
  shows_separated_map fun rule _ => rule.shows_layout depth label

/-- Rules have no lines together exactly if none of them is written. -/
theorem Rule.separated_eq_nil_iff (depth : Nat) (label : Option String) (rules : List Rule) :
    separated (rules.map (·.layout depth label)) = [] ↔ rules.any Rule.isWritten = false := by
  simp [StyleObjects.separated_eq_nil_iff, Rule.layout_eq_nil_iff, isWritten]

mutual

/-- A media query has no lines exactly if no rule is written in it. -/
theorem MediaQuery.layout_eq_nil_iff (scope : Scope) (depth : Nat) :
    ∀ media : MediaQuery, media.layout scope depth = [] ↔ media.isWritten scope = false
  | .mk query body nested => by
    have hrules := Rule.separated_eq_nil_iff (depth + 1) scope.label
      (body.rules scope.selector scope.combinator)
    have hnested := layoutAll_eq_nil_iff scope (depth + 1) nested
    simp only [layout, isWritten, Bool.or_eq_false_iff, ← hrules, ← hnested]
    split <;> simp_all

theorem MediaQuery.layoutAll_eq_nil_iff (scope : Scope) (depth : Nat) :
    ∀ medias : List MediaQuery,
      separated (layoutAll scope depth medias) = [] ↔ anyWritten scope medias = false
  | [] => by simp [layoutAll, anyWritten]
  | media :: rest => by
    have hfirst := layout_eq_nil_iff scope depth media
    have hrest := layoutAll_eq_nil_iff scope depth rest
    simp only [separated_eq_nil_iff] at hrest
    simp [layoutAll, anyWritten, separated_eq_nil_iff, hfirst, hrest]

end

mutual

/-- The lines of a media query show its block, at any depth. -/
theorem MediaQuery.shows_layout (scope : Scope) (depth : Nat) :
    ∀ media : MediaQuery, Shows depth (media.layout scope depth) (media.outline scope)
  | .mk query body nested => by
    by_cases hwritten : MediaQuery.isWritten scope (.mk query body nested) = true
    · have hlines : MediaQuery.layout scope depth (.mk query body nested) ≠ [] := by
        rw [ne_eq, layout_eq_nil_iff, hwritten]
        simp
      have hcontent := (Rule.shows_separated (depth + 1) scope.label
        (body.rules scope.selector scope.combinator)).append
        (shows_layoutAll scope (depth + 1) nested)
      rw [outline, if_pos hwritten]
      rw [layout] at hlines ⊢
      split at hlines
      · exact absurd rfl hlines
      · rename_i hsome
        rw [if_neg hsome]
        exact .block none query (by simpa using hsome) hcontent
    · have hnil := (layout_eq_nil_iff scope depth (.mk query body nested)).2 (by simpa using hwritten)
      rw [hnil, outline, if_neg hwritten]
      exact .nil

theorem MediaQuery.shows_layoutAll (scope : Scope) (depth : Nat) :
    ∀ medias : List MediaQuery,
      Shows depth (separated (layoutAll scope depth medias)) (outlineAll scope medias)
  | [] => .nil
  | media :: rest => by
    have hfirst := shows_layout scope depth media
    rw [← separated_singleton (media.layout scope depth)] at hfirst
    exact shows_separated_append hfirst (shows_layoutAll scope depth rest)

end

/-- The lines of rules that stand directly below each other show their blocks. -/
theorem Rule.shows_flatMap (depth : Nat) (rules : List Rule) :
    Shows depth (rules.flatMap (·.layout depth none)) (rules.flatMap (·.outline none)) := by
  induction rules with
  | nil => exact .nil
  | cons rule rest ih => exact (rule.shows_layout depth none).append ih

/-- The lines of a keyframes block show its block. -/
theorem Keyframes.shows_layout (k : Keyframes) : Shows 0 k.layout k.outline := by
  have hnil : k.layout = [] ↔ k.rules.any Rule.isWritten = false := by
    simp [layout_eq_nil_iff, Rule.isWritten]
  by_cases hwritten : k.rules.any Rule.isWritten = true
  · have hlines : k.layout ≠ [] := by simp [hnil, hwritten]
    rw [outline, if_pos hwritten]
    rw [layout] at hlines ⊢
    split at hlines
    · exact absurd rfl hlines
    · rename_i hsome
      rw [if_neg hsome]
      exact .block none k.name (by simpa using hsome) (Rule.shows_flatMap 1 k.rules)
  · rw [outline, if_neg hwritten, hnil.2 (by simpa using hwritten)]
    exact .nil

/-! ## Records -/

/-- The blocks of an object show its outline. -/
theorem Declaration.shows_blocks (d : Declaration) (scope : Scope) :
    Shows 0 (separated (d.blocks scope)) (d.outline scope) :=
  shows_separated_append
    (shows_separated_append (Rule.shows_separated 0 scope.label _)
      (MediaQuery.shows_layoutAll scope 0 d.mediaQueries))
    (shows_separated_map fun k _ => k.shows_layout)

/-- The blocks of a record show its outline. -/
theorem Record.shows_blocks (r : Record) : Shows 0 (separated r.blocks) r.outline :=
  shows_separated_flatMap fun e _ => e.2.shows_blocks (r.scope e.1)

/-- The blocks of a record are laid out well. -/
theorem Record.lays_blocks (r : Record) :
    Lays 0 (characters (separated r.blocks)) r.outline :=
  r.shows_blocks.lays

end StyleObjects
