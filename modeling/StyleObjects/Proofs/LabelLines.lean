import Mathlib.Data.List.TakeWhile
import StyleObjects.Proofs.Readback

/-!
# Label lines

A record may have its rules labelled with the names of their objects.  The labels are lines of their
own, which no other line of a sheet looks like: without them, the sheet is that of the record without
labels.  Each stands directly above a rule of its object; at-rules and what is in keyframes have none.

Main results:

- `isLabelLine_iff`: what a label line looks like.
- `Record.unlabelled_blocks`: without the label lines, the lines are those of the unlabelled record.
- `Shows.labelsAbove`: a label line stands directly above the header of a block.
- `Declaration.outline_labelled`: exactly the rules outside of keyframes have a label.
- `Record.compile_withMap`: labels add lines above rules, and change nothing else.
-/

namespace StyleObjects

/-! ## What label lines look like -/

/-- Whether a line is a label: a comment after spaces, with one space within each end. -/
def isLabelLine (line : String) : Bool :=
  let comment := line.toList.dropWhile (· == ' ')
  ['/', '*', ' '].isPrefixOf comment && [' ', '*', '/'].isSuffixOf (comment.drop 3)

/-- A label line is a comment alone on its line, indented by blanks. -/
theorem isLabelLine_iff {line : String} :
    isLabelLine line = true ↔
      ∃ spaces text, line = String.ofList (List.replicate spaces ' ') ++ "/* " ++ text ++ " */" := by
  constructor
  · intro h
    simp only [isLabelLine, Bool.and_eq_true, List.isPrefixOf_iff_prefix,
      List.isSuffixOf_iff_suffix] at h
    obtain ⟨⟨rest, hrest⟩, text, htext⟩ := h
    let spaces := line.toList.takeWhile (· == ' ')
    have hspaces : spaces = List.replicate spaces.length ' ' :=
      List.eq_replicate_of_mem fun c hc => by simpa using List.mem_takeWhile_imp hc
    have hrestText : text ++ [' ', '*', '/'] = rest := by
      rw [htext, ← hrest]
      rfl
    refine ⟨spaces.length, String.ofList text, String.toList_inj.1 ?_⟩
    calc line.toList = spaces ++ line.toList.dropWhile (· == ' ') :=
          List.takeWhile_append_dropWhile.symm
      _ = List.replicate spaces.length ' ' ++ (['/', '*', ' '] ++ (text ++ [' ', '*', '/'])) := by
          rw [← hspaces, ← hrest, hrestText]
      _ = _ := by simp
  · rintro ⟨spaces, text, rfl⟩
    have hcomment : (String.ofList (List.replicate spaces ' ') ++ "/* " ++ text ++
        " */").toList.dropWhile (· == ' ') = ['/', '*', ' '] ++ (text.toList ++ [' ', '*', '/']) := by
      simp
    simp only [isLabelLine, hcomment, Bool.and_eq_true, List.isPrefixOf_iff_prefix,
      List.isSuffixOf_iff_suffix]
    exact ⟨List.prefix_append _ _, text.toList, rfl⟩

/-- A line whose end is that of another kind of line is no label. -/
theorem isLabelLine_append (kind : LineKind) {mark : String}
    (h : lineKind? mark.toList = some kind) (hkind : kind ≠ .label) (hmark : mark ≠ "")
    (start : String) : isLabelLine (start ++ mark) = false := by
  by_contra hlabel
  obtain ⟨spaces, text, heq⟩ := isLabelLine_iff.1 (by simpa using hlabel)
  have hend : lineKind? (start ++ mark).toList = some .label := by
    rw [heq, String.toList_append]
    exact lineKind?_append (by simp)
  rw [String.toList_append, lineKind?_append (by simpa using hmark), h] at hend
  exact hkind (Option.some.inj hend)

@[simp] theorem isLabelLine_opening (start : String) : isLabelLine (start ++ " \x7b") = false :=
  isLabelLine_append .opening (by simp [lineKind?]) (by simp) (by simp) start

@[simp] theorem isLabelLine_closing (start : String) : isLabelLine (start ++ "\x7d") = false :=
  isLabelLine_append .closing (by simp [lineKind?]) (by simp) (by simp) start

@[simp] theorem isLabelLine_declaration (start : String) : isLabelLine (start ++ ";") = false :=
  isLabelLine_append .declaration (by simp [lineKind?]) (by simp) (by simp) start

@[simp] theorem isLabelLine_empty : isLabelLine "" = false := by decide

@[simp] theorem isLabelLine_labelLine (depth : Nat) (label : String) :
    isLabelLine (labelLine depth label) = true := by
  have hindent : indent depth = String.ofList (List.replicate (2 * depth) ' ') :=
    String.toList_inj.1 (by rw [toList_indent, String.toList_ofList, lineMargin])
  exact isLabelLine_iff.2 ⟨2 * depth, label, by rw [labelLine, hindent]⟩

/-! ## Lines without labels -/

/-- The lines that are no labels. -/
def unlabelled (lines : List String) : List String :=
  lines.filter (!isLabelLine ·)

@[simp] theorem unlabelled_append (lines more : List String) :
    unlabelled (lines ++ more) = unlabelled lines ++ unlabelled more :=
  List.filter_append _ _

@[simp] theorem unlabelled_nil : unlabelled [] = [] := rfl

@[simp] theorem unlabelled_cons {line : String} (h : isLabelLine line = false) (rest : List String) :
    unlabelled (line :: rest) = line :: unlabelled rest :=
  List.filter_cons_of_pos (by simp [h])

/-- Lines that show nodes are not labels alone. -/
theorem Shows.unlabelled_eq_nil {depth : Nat} {lines : List String} {nodes : List Outline}
    (h : Shows depth lines nodes) : unlabelled lines = [] ↔ lines = [] := by
  -- A block keeps its header, and a gap its empty line.
  induction h with
  | nil => rfl
  | declaration text => simp
  | block label header => simp
  | append _ _ ih ihMore => rw [unlabelled_append, List.append_eq_nil_iff, ih, ihMore,
      List.append_eq_nil_iff]
  | gap => simp

/-- Blocks that show nodes lose their labels one by one, and no empty line with them. -/
theorem unlabelled_separated {depth : Nat} {blocks : List (List String)}
    (h : ∀ block ∈ blocks, ∃ nodes, Shows depth block nodes) :
    unlabelled (separated blocks) = separated (blocks.map unlabelled) := by
  induction blocks with
  | nil => rfl
  | cons block rest ih =>
    have hnil : ∀ other ∈ block :: rest, unlabelled other = [] ↔ other = [] := by
      intro other hother
      obtain ⟨nodes, hshows⟩ := h other hother
      exact hshows.unlabelled_eq_nil
    have hblock := hnil block (by simp)
    have hrest := fun other hother => h other (List.mem_cons_of_mem block hother)
    have hnone : separated (rest.map unlabelled) = [] ↔ separated rest = [] := by
      simp only [separated_eq_nil_iff, List.forall_mem_map]
      exact forall₂_congr fun other hother => hnil other (List.mem_cons_of_mem block hother)
    rw [← List.singleton_append, List.map_append, separated_append, separated_append,
      List.map_singleton, separated_singleton, separated_singleton, ← ih hrest]
    rw [← ih hrest] at hnone
    by_cases hfirst : block = []
    · rw [if_pos hfirst, if_pos (hblock.2 hfirst)]
    by_cases hlast : separated rest = []
    · rw [if_neg hfirst, if_pos hlast, if_neg (hblock.not.2 hfirst), if_pos (hnone.2 hlast)]
    · rw [if_neg hfirst, if_neg hlast, if_neg (hblock.not.2 hfirst), if_neg (hnone.not.2 hlast)]
      simp

/-- The scope without its label. -/
def Scope.unlabelled (scope : Scope) : Scope :=
  { scope with label := none }

/-- A rule without its label line is the rule laid out without a label. -/
theorem Rule.unlabelled_layout (depth : Nat) (label : Option String) (rule : Rule) :
    unlabelled (rule.layout depth label) = rule.layout depth none := by
  unfold layout
  split
  · rfl
  · have hdeclarations : unlabelled (rule.declarations.map fun line =>
        indent (depth + 1) ++ line ++ ";") =
          rule.declarations.map fun line => indent (depth + 1) ++ line ++ ";" := by
      rw [unlabelled, List.filter_eq_self]
      simp
    have hlabel : unlabelled (label.map (labelLine depth)).toList = [] := by
      cases label <;> simp [unlabelled]
    simp [hdeclarations, hlabel]

/-- The blocks of rules show nodes. -/
theorem Rule.exists_shows (depth : Nat) (label : Option String) (rules : List Rule) :
    ∀ block ∈ rules.map (·.layout depth label), ∃ nodes, Shows depth block nodes := by
  simp only [List.forall_mem_map]
  exact fun rule _ => ⟨_, rule.shows_layout depth label⟩

/-- Without its label lines, a list of labelled rules is that of the rules without labels. -/
theorem Rule.unlabelled_separated (depth : Nat) (label : Option String) (rules : List Rule) :
    unlabelled (separated (rules.map (·.layout depth label))) =
      separated (rules.map (·.layout depth none)) := by
  rw [StyleObjects.unlabelled_separated (Rule.exists_shows depth label rules), List.map_map]
  congr 2
  exact funext (Rule.unlabelled_layout depth label)

/-- Keyframes have no labels to lose. -/
theorem Keyframes.unlabelled_layout (k : Keyframes) : unlabelled k.layout = k.layout := by
  have hrules (rules : List Rule) : unlabelled (rules.flatMap (·.layout 1 none)) =
      rules.flatMap (·.layout 1 none) := by
    induction rules with
    | nil => rfl
    | cons rule rest ih => rw [List.flatMap_cons, unlabelled_append, Rule.unlabelled_layout, ih]
  have hclosing : isLabelLine "\x7d" = false := isLabelLine_closing ""
  simp only [layout]
  split
  · rfl
  · simp [hrules, hclosing]

/-- The blocks of media queries show nodes. -/
theorem MediaQuery.exists_shows (scope : Scope) (depth : Nat) (medias : List MediaQuery) :
    ∀ block ∈ layoutAll scope depth medias, ∃ nodes, Shows depth block nodes := by
  simp only [layoutAll_eq_map, List.forall_mem_map]
  exact fun media _ => ⟨_, media.shows_layout scope depth⟩

mutual

/-- A media query without its label lines is the media query laid out without labels. -/
theorem MediaQuery.unlabelled_layout (scope : Scope) (depth : Nat) :
    ∀ media : MediaQuery, unlabelled (media.layout scope depth) = media.layout scope.unlabelled depth
  | .mk query body nested => by
    have hrules := Rule.unlabelled_separated (depth + 1) scope.label
      (body.rules scope.selector scope.combinator)
    have hnested : unlabelled (separated (layoutAll scope (depth + 1) nested)) =
        separated (layoutAll scope.unlabelled (depth + 1) nested) := by
      rw [unlabelled_separated (exists_shows scope (depth + 1) nested),
        map_unlabelled_layoutAll]
    -- Whether the query is left out is decided on its content, with labels or without.
    have hcontent := ((Rule.shows_separated (depth + 1) scope.label
      (body.rules scope.selector scope.combinator)).append
      (MediaQuery.shows_layoutAll scope (depth + 1) nested)).unlabelled_eq_nil
    rw [unlabelled_append, hrules, hnested] at hcontent
    simp only [layout, List.isEmpty_iff, Scope.unlabelled] at hcontent ⊢
    by_cases hempty : separated ((body.rules scope.selector scope.combinator).map
        (·.layout (depth + 1) scope.label)) ++ separated (layoutAll scope (depth + 1) nested) = []
    · rw [if_pos hempty, if_pos (hcontent.2 hempty), unlabelled_nil]
    · rw [if_neg hempty, if_neg (hcontent.not.2 hempty)]
      simp [hrules, hnested, Scope.unlabelled]

/-- Without their label lines, labelled media queries are those without labels. -/
theorem MediaQuery.map_unlabelled_layoutAll (scope : Scope) (depth : Nat) :
    ∀ medias : List MediaQuery, (layoutAll scope depth medias).map unlabelled =
      layoutAll scope.unlabelled depth medias
  | [] => rfl
  | media :: rest => by
    rw [layoutAll, List.map_cons, unlabelled_layout scope depth media,
      map_unlabelled_layoutAll scope depth rest, layoutAll]

end

/-! ## Records with labels and without -/

/-- The record with labels on or off. -/
def Record.withMap (r : Record) (map : Bool) : Record :=
  { r with map }

/-- The blocks of an object without their label lines are those of the scope without a label. -/
theorem Declaration.map_unlabelled_blocks (d : Declaration) (scope : Scope) :
    (d.blocks scope).map unlabelled = d.blocks scope.unlabelled := by
  have hrules : unlabelled ∘ (·.layout 0 scope.label) = (Rule.layout 0 none) :=
    funext (Rule.unlabelled_layout 0 scope.label)
  have hframes : unlabelled ∘ Keyframes.layout = Keyframes.layout :=
    funext Keyframes.unlabelled_layout
  simp only [blocks, List.map_append, List.map_map, MediaQuery.map_unlabelled_layoutAll, hrules,
    hframes]
  rfl

/-- Every block of an object shows something. -/
theorem Declaration.exists_shows (d : Declaration) (scope : Scope) :
    ∀ block ∈ d.blocks scope, ∃ nodes, Shows 0 block nodes := by
  intro block hblock
  rw [blocks, List.mem_append, List.mem_append] at hblock
  rcases hblock with (hrule | hmedia) | hframes
  · exact Rule.exists_shows 0 scope.label _ block hrule
  · exact MediaQuery.exists_shows scope 0 _ block hmedia
  · obtain ⟨k, _, rfl⟩ := List.mem_map.1 hframes
    exact ⟨_, k.shows_layout⟩

/-- Without the label lines, the lines are those of the unlabelled record. -/
theorem Record.unlabelled_blocks (r : Record) :
    unlabelled (separated (r.withMap true).blocks) = separated (r.withMap false).blocks := by
  have hshows : ∀ block ∈ (r.withMap true).blocks, ∃ nodes, Shows 0 block nodes := by
    intro block hblock
    obtain ⟨e, _, hblock⟩ := List.mem_flatMap.1 hblock
    exact e.2.exists_shows _ block hblock
  rw [unlabelled_separated hshows]
  simp only [blocks, List.map_flatMap, Declaration.map_unlabelled_blocks]
  rfl

/-! ## Where labels stand -/

/-- A label line is directly above the header of a block, and no label line is the last one. -/
structure LabelsAbove (lines : List String) : Prop where
  chain : lines.IsChain fun line next =>
    isLabelLine line = true → lineKind? next.toList = some .opening
  last : ∀ line ∈ lines.getLast?, isLabelLine line = false

/-- Label lines stay above their blocks when lines are put below each other. -/
theorem LabelsAbove.append {lines more : List String} (h : LabelsAbove lines)
    (hmore : LabelsAbove more) : LabelsAbove (lines ++ more) := by
  refine ⟨?_, ?_⟩
  · rw [List.isChain_append]
    refine ⟨h.chain, hmore.chain, ?_⟩
    intro line hline next _ hlabel
    simp [h.last line hline] at hlabel
  · intro line hline
    rw [List.getLast?_append] at hline
    cases hlast : more.getLast? with
    | none =>
      rw [hlast] at hline
      exact h.last line hline
    | some other =>
      rw [hlast] at hline
      exact hmore.last line (hlast ▸ hline)

/-- A single line that is no label has none to stand above. -/
theorem labelsAbove_singleton {line : String} (h : isLabelLine line = false) :
    LabelsAbove [line] :=
  ⟨.singleton line, by simpa using h⟩

/-- In lines that show nodes, every label line is directly above the header of a block. -/
theorem Shows.labelsAbove {depth : Nat} {lines : List String} {nodes : List Outline}
    (h : Shows depth lines nodes) : LabelsAbove lines := by
  induction h with
  | nil => exact ⟨.nil, by simp⟩
  | declaration text => exact labelsAbove_singleton (by simp)
  | @block depth content nodes label header _ _ ih =>
    have hheader : LabelsAbove ((label.map (labelLine depth)).toList ++
        [indent depth ++ header ++ " \x7b"]) := by
      cases label with
      | none => exact labelsAbove_singleton (by simp)
      | some name =>
        refine ⟨?_, by simp⟩
        have hopening : lineKind? (indent depth ++ header ++ " \x7b").toList = some .opening := by
          rw [String.toList_append]
          exact lineKind?_append (by simp)
        exact .cons_cons (fun _ => hopening) (.singleton _)
    exact (hheader.append ih).append (labelsAbove_singleton (by simp))
  | append _ _ ih ihMore => exact ih.append ihMore
  | gap _ _ _ _ ih ihMore => exact ih.append ((labelsAbove_singleton (by simp)).append ihMore)

/-- A block of declarations alone, as that of a rule. -/
inductive Outline.RuleBlock (label : Option String) : Outline → Prop where
  | mk (selector : String) (declarations : List String) :
    RuleBlock label (.block label selector (declarations.map .declaration))

/-- A block of an object's outline in which exactly the rules outside of keyframes are labelled, with
the name of the object. -/
inductive Outline.LabelledBy (object : String) : Outline → Prop where
  | rule {node : Outline} (block : RuleBlock (some object) node) : LabelledBy object node
  | media {query : String} {content : List Outline} (key : isMediaKey query = true)
    (inside : ∀ node ∈ content, LabelledBy object node) :
    LabelledBy object (.block none query content)
  | keyframes {name : String} {content : List Outline} (key : isKeyframesKey name = true)
    (inside : ∀ node ∈ content, RuleBlock none node) : LabelledBy object (.block none name content)

/-- The outline of rules has blocks with their label alone. -/
theorem Rule.outline_ruleBlock (label : Option String) (rules : List Rule) :
    ∀ node ∈ rules.flatMap (·.outline label), node.RuleBlock label := by
  intro node hnode
  obtain ⟨rule, _, hnode⟩ := List.mem_flatMap.1 hnode
  unfold outline at hnode
  split at hnode
  · obtain rfl := List.mem_singleton.1 hnode
    exact .mk rule.selector rule.declarations
  · simp at hnode

namespace Declaration

/-- The rules in a media query are labelled, at any depth, and the media queries are not. -/
theorem mediaQueries_labelled {d : Declaration} {scope : Scope} {object : String}
    (hlabel : scope.label = some object) :
    ∀ media ∈ d.mediaQueries, ∀ node ∈ media.outline scope, node.LabelledBy object := by
  refine mediaQueries_induction
    (motive := fun _ media => ∀ node ∈ media.outline scope, node.LabelledBy object) ?_ id id
  intro key body rest hkey ih node hnode
  rw [MediaQuery.outline] at hnode
  split at hnode
  · obtain rfl := List.mem_singleton.1 hnode
    refine .media hkey ?_
    intro inner hinner
    rw [hlabel, MediaQuery.outlineAll_eq_flatMap] at hinner
    rcases List.mem_append.1 hinner with hrule | hmedia
    · exact .rule (Rule.outline_ruleBlock _ _ inner hrule)
    · obtain ⟨media, hmedia, hinner⟩ := List.mem_flatMap.1 hmedia
      exact ih media hmedia inner hinner
  · simp at hnode

/-- The blocks of keyframes and the rules in them have no label. -/
theorem keyframes_labelled {d : Declaration} (object : String) :
    ∀ k ∈ d.keyframes, ∀ node ∈ k.outline, node.LabelledBy object := by
  intro k hk node hnode
  unfold Keyframes.outline at hnode
  split at hnode
  · obtain rfl := List.mem_singleton.1 hnode
    exact .keyframes (isKeyframesKey_of_mem_keyframes k hk) (Rule.outline_ruleBlock none k.rules)
  · simp at hnode

/-- In the outline of a labelled object exactly the rules outside of keyframes have its label. -/
theorem outline_labelled {d : Declaration} {scope : Scope} {object : String}
    (hlabel : scope.label = some object) :
    ∀ node ∈ d.outline scope, node.LabelledBy object := by
  intro node hnode
  rw [outline, MediaQuery.outlineAll_eq_flatMap, List.mem_append, List.mem_append, hlabel] at hnode
  rcases hnode with (hrule | hmedia) | hframes
  · exact .rule (Rule.outline_ruleBlock _ _ node hrule)
  · obtain ⟨media, hmedia, hnode⟩ := List.mem_flatMap.1 hmedia
    exact mediaQueries_labelled hlabel media hmedia node hnode
  · obtain ⟨k, hk, hnode⟩ := List.mem_flatMap.1 hframes
    exact keyframes_labelled object k hk node hnode

end Declaration

/-! ## The two sheets -/

/-- The lines of a text. -/
def textLines (css : String) : List String :=
  (Text.lines css.toList).map String.ofList

/-- A text without its label lines. -/
def withoutLabelLines (css : String) : String :=
  "\n".intercalate (unlabelled (textLines css))

/-- The lines of the text of a sheet are those of its blocks. -/
theorem Record.textLines_css {r : Record} (hunbroken : r.Unbroken) (hselectors : r.HasSelectors) :
    textLines r.css = separated r.blocks := by
  rw [textLines, lines_css hunbroken hselectors, characters, List.map_map]
  simp [Function.comp_def]

/-- Labels only add comments.  Compiled with labels and without them, a record has the same name and
the same lookup maps, and without its label lines the sheet with labels is the other.  The lines of
the sheet with labels show its outline, in which exactly the rules outside of keyframes have a label,
which is the name of their object; a label line stands nowhere but directly above a header. -/
theorem Record.compile_withMap {r : Record} (hunbroken : r.Unbroken) (hselectors : r.HasSelectors) :
    (r.withMap true).compile.name = (r.withMap false).compile.name ∧
    (r.withMap true).compile.selectors = (r.withMap false).compile.selectors ∧
    (r.withMap true).compile.objects = (r.withMap false).compile.objects ∧
    withoutLabelLines (r.withMap true).compile.css = (r.withMap false).compile.css ∧
    Shows 0 (textLines (r.withMap true).compile.css)
      (r.compiled.flatMap fun e => e.2.outline ((r.withMap true).scope e.1)) ∧
    (∀ e ∈ r.compiled, ∀ node ∈ e.2.outline ((r.withMap true).scope e.1), node.LabelledBy e.1) ∧
    LabelsAbove (textLines (r.withMap true).compile.css) := by
  have hunbroken' : (r.withMap true).Unbroken :=
    ⟨hunbroken.names, hunbroken.declarations, hunbroken.overrides, hunbroken.combinators,
      hunbroken.prepend, hunbroken.version⟩
  have hselectors' (map : Bool) : (r.withMap map).HasSelectors := hselectors
  have hlines : textLines (r.withMap true).compile.css = separated (r.withMap true).blocks :=
    textLines_css hunbroken' (hselectors' true)
  have hshows := (r.withMap true).shows_blocks
  refine ⟨rfl, rfl, rfl, ?_, ?_, ?_, ?_⟩
  · calc withoutLabelLines (r.withMap true).compile.css
        = "\n".intercalate (unlabelled (separated (r.withMap true).blocks)) := by
          rw [withoutLabelLines, hlines]
      _ = "\n".intercalate (separated (r.withMap false).blocks) := by rw [unlabelled_blocks]
      _ = (r.withMap false).compile.css := (css_eq_intercalate (hselectors' false)).symm
  · rw [hlines]
    exact hshows
  · intro e _
    exact Declaration.outline_labelled rfl
  · rw [hlines]
    exact hshows.labelsAbove

theorem Record.compile_withMap_sample :
    (sample.Unbroken ∧ sample.HasSelectors) ∧
    withoutLabelLines (sample.withMap true).compile.css = (sample.withMap false).compile.css ∧
    LabelsAbove (textLines (sample.withMap true).compile.css) := by
  have hunbroken : sample.Unbroken :=
    ⟨by decide +kernel, by decide +kernel, by decide, by decide, by decide, by decide⟩
  have hselectors : sample.HasSelectors := by decide +kernel
  obtain ⟨_, _, _, hcss, _, _, habove⟩ := compile_withMap hunbroken hselectors
  exact ⟨⟨hunbroken, hselectors⟩, hcss, habove⟩

end StyleObjects
