import Mathlib.Data.List.Chain
import StyleObjects.Compile

/-!
# Outlines

The outline of a stylesheet is the forest of its blocks, with the declaration lines inside of them.
A reader recovers it from the lines of a text, of which it looks at the last character to tell what
a line is.  This file defines outlines and the reader, and says how lines that are laid out well are
put together.

Main results:

- `Lays.append`, `Lays.gap`: lines laid out well can be put below each other, with or without an
  empty line in between.
- `Lays.block`, `Lays.labelled`: so can they be put into a block, below its label or without one.
-/

namespace StyleObjects

/-- A node of an outline: a declaration line, or a block with its header, its content, and the label
in front of it if there is one. -/
inductive Outline where
  | declaration (line : String)
  | block (label : Option String) (header : String) (content : List Outline)

/-! ## Lines -/

/-- What a line is. -/
inductive LineKind where
  /-- The header of a block. -/
  | opening
  /-- The end of a block. -/
  | closing
  | declaration
  /-- The label of the block below. -/
  | label
  /-- An empty line. -/
  | separator
deriving DecidableEq, Repr

/-- What a line is, told by its last character. -/
def lineKind? (line : List Char) : Option LineKind :=
  match line.getLast? with
  | none => some .separator
  | some '\x7b' => some .opening
  | some '\x7d' => some .closing
  | some ';' => some .declaration
  | some '/' => some .label
  | some _ => none

/-- The blanks that a line at a depth starts with. -/
def lineMargin (depth : Nat) : List Char :=
  List.replicate (2 * depth) ' '

/-- A line without some characters at its front and at its back. -/
def inner (front back : Nat) (line : List Char) : String :=
  String.ofList ((line.drop front).take (line.length - front - back))

/-- Between its front and its back stands the text of a line. -/
theorem inner_append {front back : Nat} {start stop : List Char} {text : String}
    (hstart : start.length = front) (hstop : stop.length = back) :
    inner front back (start ++ text.toList ++ stop) = text := by
  subst hstart hstop
  have hlength : (start ++ text.toList ++ stop).length - start.length - stop.length =
      text.toList.length := by
    simp only [List.length_append]
    omega
  rw [inner, hlength, List.append_assoc, List.drop_left, List.take_left, String.ofList_toList]

/-! ## Reading -/

/-- A block that is still open: its label, its header, and what stands before it on its level. -/
structure OpenBlock where
  label : Option String
  header : String
  before : List Outline

/-- The state of the reader: the open blocks, innermost first, the label that was read for the next
block, and what was read on the current level. -/
structure Reading where
  enclosing : List OpenBlock
  label : Option String
  content : List Outline

namespace Reading

/-- The reader before the first line. -/
def start : Reading := ⟨[], none, []⟩

/-- Reads one line. -/
def step (s : Reading) (line : List Char) : Option Reading :=
  let margin := 2 * s.enclosing.length
  match lineKind? line with
  | none => none
  | some .separator => some s
  | some .label => some { s with label := some (inner (margin + 3) 3 line) }
  | some .declaration =>
    some { s with content := s.content ++ [.declaration (inner margin 1 line)] }
  | some .opening => some ⟨⟨s.label, inner margin 2 line, s.content⟩ :: s.enclosing, none, []⟩
  | some .closing =>
    match s.enclosing with
    | [] => none
    | b :: enclosing =>
      some ⟨enclosing, none, b.before ++ [.block b.label b.header s.content]⟩

/-- What was read, if all blocks are closed and no label is left over. -/
def result? (s : Reading) : Option (List Outline) :=
  if s.enclosing.isEmpty && s.label.isNone then some s.content else none

end Reading

/-- Reads the outline of a text line by line. -/
def readOutline? (css : String) : Option (List Outline) :=
  ((Text.lines css.toList).foldlM Reading.step .start).bind Reading.result?

/-! ## Lines laid out well -/

/-- Lines that lead from one depth of braces to another, where each line is indented for the braces
around it. -/
inductive Indented : Nat → List (List Char) → Nat → Prop where
  | nil {depth : Nat} : Indented depth [] depth
  | opening {depth last : Nat} {line : List Char} {rest : List (List Char)}
    (kind : lineKind? line = some .opening) (margin : lineMargin depth <+: line)
    (below : Indented (depth + 1) rest last) : Indented depth (line :: rest) last
  | closing {depth last : Nat} {line : List Char} {rest : List (List Char)}
    (kind : lineKind? line = some .closing) (margin : lineMargin depth <+: line)
    (below : Indented depth rest last) : Indented (depth + 1) (line :: rest) last
  | declaration {depth last : Nat} {line : List Char} {rest : List (List Char)}
    (kind : lineKind? line = some .declaration) (margin : lineMargin depth <+: line)
    (below : Indented depth rest last) : Indented depth (line :: rest) last
  | label {depth last : Nat} {line : List Char} {rest : List (List Char)}
    (kind : lineKind? line = some .label) (margin : lineMargin depth <+: line)
    (below : Indented depth rest last) : Indented depth (line :: rest) last
  | separator {depth last : Nat} {rest : List (List Char)} (below : Indented depth rest last) :
    Indented depth ([] :: rest) last

/-- Indented lines go on at the depth where the lines above end. -/
theorem Indented.append {depth middle last : Nat} {lines more : List (List Char)}
    (h : Indented depth lines middle) (hmore : Indented middle more last) :
    Indented depth (lines ++ more) last := by
  induction h with
  | nil => exact hmore
  | opening kind margin _ ih => exact .opening kind margin (ih hmore)
  | closing kind margin _ ih => exact .closing kind margin (ih hmore)
  | declaration kind margin _ ih => exact .declaration kind margin (ih hmore)
  | label kind margin _ ih => exact .label kind margin (ih hmore)
  | separator _ ih => exact .separator (ih hmore)

/-- Whether content has to follow a line: the line opens a block, or is empty. -/
def wantsContent (line : List Char) : Prop :=
  lineKind? line = some .opening ∨ lineKind? line = some .separator

/-- Whether content has to stand before a line: the line closes a block, or is empty. -/
def needsContent (line : List Char) : Prop :=
  lineKind? line = some .closing ∨ lineKind? line = some .separator

/-- Lines without an empty block, without two empty lines in a row, and without an empty line at
either end of the lines or of a block. -/
structure Tidy (lines : List (List Char)) : Prop where
  chain : lines.IsChain fun line next => wantsContent line → ¬ needsContent next
  first : ∀ line, lines.head? = some line → ¬ needsContent line
  last : ∀ line, lines.getLast? = some line → ¬ wantsContent line

theorem tidy_nil : Tidy [] :=
  ⟨.nil, by simp, by simp⟩

/-- A single line is tidy if nothing has to stand around it. -/
theorem tidy_singleton {line : List Char} (hneeds : ¬ needsContent line)
    (hwants : ¬ wantsContent line) : Tidy [line] :=
  ⟨.singleton line, by simpa using hneeds, by simpa using hwants⟩

/-- Tidy lines can be put below each other. -/
theorem Tidy.append {lines more : List (List Char)} (h : Tidy lines) (hmore : Tidy more) :
    Tidy (lines ++ more) := by
  by_cases hlines : lines = []
  · subst hlines
    exact hmore
  by_cases hnil : more = []
  · subst hnil
    simpa using h
  refine ⟨?_, ?_, ?_⟩
  · rw [List.isChain_append]
    refine ⟨h.chain, hmore.chain, ?_⟩
    intro line hline next _ hwants
    exact absurd hwants (h.last line hline)
  · rw [List.head?_append_of_ne_nil _ hlines]
    exact h.first
  · rw [List.getLast?_append_of_ne_nil _ hnil]
    exact hmore.last

/-- Lines that are not empty may be put below each other with an empty line in between. -/
theorem Tidy.gap {lines more : List (List Char)} (hlines : lines ≠ []) (hmore : more ≠ [])
    (h : Tidy lines) (hbelow : Tidy more) : Tidy (lines ++ [] :: more) := by
  refine ⟨?_, ?_, ?_⟩
  · rw [List.isChain_append]
    refine ⟨h.chain, ?_, ?_⟩
    · rw [List.isChain_cons]
      refine ⟨?_, hbelow.chain⟩
      intro next hnext _
      exact hbelow.first next hnext
    · intro line hline next _ hwants
      exact absurd hwants (h.last line hline)
  · rw [List.head?_append_of_ne_nil _ hlines]
    exact h.first
  · obtain ⟨next, rest, rfl⟩ := List.exists_cons_of_ne_nil hmore
    simpa using hbelow.last

/-- Content that is not empty may be put between the lines that open and close a block. -/
theorem Tidy.block {content : List (List Char)} {opening closing : List Char}
    (hopening : lineKind? opening = some .opening) (hclosing : lineKind? closing = some .closing)
    (hcontent : content ≠ []) (h : Tidy content) :
    Tidy (opening :: content ++ [closing]) := by
  have hhead : (content ++ [closing]).head? = content.head? :=
    List.head?_append_of_ne_nil _ hcontent
  refine ⟨?_, ?_, ?_⟩
  · rw [List.cons_append, List.isChain_cons, List.isChain_append]
    refine ⟨?_, h.chain, .singleton closing, ?_⟩
    · intro next hnext _
      rw [hhead] at hnext
      exact h.first next hnext
    · intro line hline next _ hwants
      exact absurd hwants (h.last line hline)
  · intro line hline
    simp only [List.cons_append, List.head?_cons, Option.some.injEq] at hline
    simp [needsContent, ← hline, hopening]
  · intro line hline
    rw [List.getLast?_append_of_ne_nil _ (by simp)] at hline
    simp only [List.getLast?_singleton, Option.some.injEq] at hline
    simp [wantsContent, ← hline, hclosing]

/-- Lines from which the reader, at a depth and without a label at hand, reads some nodes. -/
def Reads (depth : Nat) (lines : List (List Char)) (nodes : List Outline) : Prop :=
  ∀ s : Reading, s.enclosing.length = depth → s.label = none →
    lines.foldlM Reading.step s = some { s with content := s.content ++ nodes }

/-- Lines below each other are read one after the other. -/
theorem Reads.append {depth : Nat} {lines more : List (List Char)} {nodes others : List Outline}
    (h : Reads depth lines nodes) (hmore : Reads depth more others) :
    Reads depth (lines ++ more) (nodes ++ others) := by
  intro s hdepth hlabel
  rw [List.foldlM_append, h s hdepth hlabel]
  have hrest := hmore { s with content := s.content ++ nodes } hdepth hlabel
  simpa using hrest

/-- Lines without nodes are told apart by what they read alone. -/
theorem Reads.nodes_eq_nil {depth : Nat} {nodes : List Outline} (h : Reads depth [] nodes) :
    nodes = [] := by
  have hread := h ⟨List.replicate depth ⟨none, "", []⟩, none, []⟩ (by simp) rfl
  simpa [eq_comm] using hread

/-- Lines at a depth that hold some nodes, indented and without superfluous empty lines. -/
structure Lays (depth : Nat) (lines : List (List Char)) (nodes : List Outline) : Prop where
  reads : Reads depth lines nodes
  indented : Indented depth lines depth
  tidy : Tidy lines

namespace Lays

variable {depth : Nat} {lines more : List (List Char)} {nodes others : List Outline}

theorem nil : Lays depth [] [] :=
  ⟨fun s _ _ => by simp, .nil, tidy_nil⟩

/-- Lines laid out well can be put below each other. -/
theorem append (h : Lays depth lines nodes) (hmore : Lays depth more others) :
    Lays depth (lines ++ more) (nodes ++ others) :=
  ⟨h.reads.append hmore.reads, h.indented.append hmore.indented, h.tidy.append hmore.tidy⟩

/-- An empty line may stand between lines that are not empty. -/
theorem gap (hlines : lines ≠ []) (hnil : more ≠ []) (h : Lays depth lines nodes)
    (hmore : Lays depth more others) : Lays depth (lines ++ [] :: more) (nodes ++ others) := by
  have hseparator : Reads depth ([] :: more) others := by
    intro s hdepth hlabel
    rw [List.foldlM_cons]
    exact hmore.reads s hdepth hlabel
  exact ⟨h.reads.append hseparator, h.indented.append (.separator hmore.indented),
    h.tidy.gap hlines hnil hmore.tidy⟩

/-- A single line that is a declaration. -/
theorem declaration {line : List Char} (hkind : lineKind? line = some .declaration)
    (hmargin : lineMargin depth <+: line) :
    Lays depth [line] [.declaration (inner (2 * depth) 1 line)] := by
  refine ⟨?_, .declaration hkind hmargin .nil, ?_⟩
  · intro s hdepth _
    simp [Reading.step, hkind, hdepth]
  · exact tidy_singleton (by simp [needsContent, hkind]) (by simp [wantsContent, hkind])

end Lays

/-! ## Blocks -/

section Block

variable {depth : Nat} {opening closing : List Char} {content : List (List Char)}
  {nodes : List Outline}

/-- The reader takes the label at hand for the block that it reads. -/
theorem foldlM_block (hopening : lineKind? opening = some .opening)
    (hclosing : lineKind? closing = some .closing) (h : Reads (depth + 1) content nodes)
    (s : Reading) (hdepth : s.enclosing.length = depth) :
    (opening :: content ++ [closing]).foldlM Reading.step s =
      some ⟨s.enclosing, none,
        s.content ++ [.block s.label (inner (2 * depth) 2 opening) nodes]⟩ := by
  have hopen : Reading.step s opening =
      some ⟨⟨s.label, inner (2 * depth) 2 opening, s.content⟩ :: s.enclosing, none, []⟩ := by
    simp [Reading.step, hopening, hdepth]
  have hinside := h ⟨⟨s.label, inner (2 * depth) 2 opening, s.content⟩ :: s.enclosing, none, []⟩
    (by simp [hdepth]) rfl
  rw [List.cons_append, List.foldlM_cons, hopen, Option.bind_eq_bind, Option.bind_some,
    List.foldlM_append, hinside]
  simp [Reading.step, hclosing]

/-- Lines that are indented within a block stay so in it. -/
theorem Indented.block (hopening : lineKind? opening = some .opening)
    (hopenMargin : lineMargin depth <+: opening) (hclosing : lineKind? closing = some .closing)
    (hcloseMargin : lineMargin depth <+: closing) (h : Indented (depth + 1) content (depth + 1)) :
    Indented depth (opening :: content ++ [closing]) depth :=
  .opening hopening hopenMargin (h.append (.closing hclosing hcloseMargin .nil))

/-- A block without a label, around content that is not empty. -/
theorem Lays.block (hopening : lineKind? opening = some .opening)
    (hopenMargin : lineMargin depth <+: opening) (hclosing : lineKind? closing = some .closing)
    (hcloseMargin : lineMargin depth <+: closing) (hcontent : content ≠ [])
    (h : Lays (depth + 1) content nodes) :
    Lays depth (opening :: content ++ [closing])
      [.block none (inner (2 * depth) 2 opening) nodes] := by
  refine ⟨?_, h.indented.block hopening hopenMargin hclosing hcloseMargin,
    h.tidy.block hopening hclosing hcontent⟩
  intro s hdepth hlabel
  rw [foldlM_block hopening hclosing h.reads s hdepth, hlabel]

/-- A block below its label, around content that is not empty. -/
theorem Lays.labelled {label : List Char} (hlabel : lineKind? label = some .label)
    (hlabelMargin : lineMargin depth <+: label) (hopening : lineKind? opening = some .opening)
    (hopenMargin : lineMargin depth <+: opening) (hclosing : lineKind? closing = some .closing)
    (hcloseMargin : lineMargin depth <+: closing) (hcontent : content ≠ [])
    (h : Lays (depth + 1) content nodes) :
    Lays depth ([label] ++ (opening :: content ++ [closing]))
      [.block (some (inner (2 * depth + 3) 3 label)) (inner (2 * depth) 2 opening) nodes] := by
  have hsingle : Tidy [label] :=
    tidy_singleton (by simp [needsContent, hlabel]) (by simp [wantsContent, hlabel])
  refine ⟨?_, .label hlabel hlabelMargin
    (h.indented.block hopening hopenMargin hclosing hcloseMargin),
    hsingle.append (h.tidy.block hopening hclosing hcontent)⟩
  intro s hdepth hnone
  have hstep : Reading.step s label =
      some { s with label := some (inner (2 * depth + 3) 3 label) } := by
    simp [Reading.step, hlabel, hdepth]
  rw [List.singleton_append, List.foldlM_cons, hstep, Option.bind_eq_bind, Option.bind_some,
    foldlM_block hopening hclosing h.reads
      { s with label := some (inner (2 * depth + 3) 3 label) } hdepth, hnone]

end Block

end StyleObjects
