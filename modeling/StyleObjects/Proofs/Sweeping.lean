import Mathlib.Data.List.Basic
import StyleObjects.Proofs.ObjectPieces

/-!
# Entries that cannot be seen

A sweep leaves entries of a declaration out, at every depth.  Labels, undefined values, and blocks
without entries cannot be seen in a sheet, so that a sweep that leaves out such entries alone changes
nothing.  Labels of which all can be seen are those that stand directly in keyframes, where they are
taken for offsets.

Main results:

- `Declaration.filter_rules_swept`: a sweep keeps the rules that are written.
- `Declaration.separated_media_swept`, `Declaration.separated_keyframes_swept`: it keeps the lines of
  at-rules.
- `Record.compile_withoutLabels`: labels do not influence a sheet, except as offsets.
- `Record.compile_pruned`: neither do undefined values and empty blocks.
-/

namespace StyleObjects

/-! ## Sweeping -/

mutual

/-- The value with its block swept, if it is one. -/
def StyleValue.swept (keep : String → StyleValue → Bool) : StyleValue → StyleValue
  | .block body => .block (body.swept keep)
  | .undefined => .undefined
  | .number x => .number x
  | .text s => .text s

/-- The declaration without the entries that fail a test, at every depth.  A block is tested by what
is left of it. -/
def Declaration.swept (keep : String → StyleValue → Bool) : Declaration → Declaration
  | .nil => .nil
  | .cons key value rest =>
    if keep key (value.swept keep) then .cons key (value.swept keep) (rest.swept keep)
    else rest.swept keep

end

/-- Whether every entry passes a test, at every depth. -/
def Declaration.everyEntry (test : String → StyleValue → Bool) : Declaration → Bool
  | nil => true
  | cons key value rest =>
    test key value &&
      (match value with
        | .block body => body.everyEntry test
        | _ => true) && rest.everyEntry test

/-- Sweeping changes no value that is not a block. -/
theorem StyleValue.swept_leaf {value : StyleValue} (hvalue : value.isBlock = false)
    (keep : String → StyleValue → Bool) : value.swept keep = value := by
  cases value <;> simp_all [swept, isBlock, block?]

namespace Declaration

variable {keep : String → StyleValue → Bool}

/-- A leaf is kept or dropped as it stands. -/
theorem swept_leaf {value : StyleValue} (hvalue : value.isBlock = false) (key : String)
    (rest : Declaration) :
    (cons key value rest).swept keep =
      if keep key value then cons key value (rest.swept keep) else rest.swept keep := by
  rw [swept, StyleValue.swept_leaf hvalue]

/-- A block is swept before it is kept or dropped. -/
theorem swept_block (key : String) (body rest : Declaration) :
    (cons key (.block body) rest).swept keep =
      if keep key (.block (body.swept keep)) then cons key (.block (body.swept keep)) (rest.swept keep)
      else rest.swept keep := by
  rw [swept, StyleValue.swept]

/-- What is left after a sweep passes the test. -/
theorem everyEntry_swept (d : Declaration) : (d.swept keep).everyEntry keep = true := by
  induction d using entry_induction with
  | nil => rfl
  | leaf key value rest hvalue ih =>
    rw [swept_leaf hvalue]
    split
    · rename_i hkeep
      cases value <;> simp_all [everyEntry, StyleValue.isBlock, StyleValue.block?]
    · exact ih
  | block key body rest ihBody ihRest =>
    rw [swept_block]
    split
    · rename_i hkeep
      simp only [everyEntry, hkeep, ihBody, ihRest, Bool.and_true]
    · exact ihRest

/-- Sweeping adds no keys. -/
theorem keys_swept_sublist (d : Declaration) : (d.swept keep).keys.Sublist d.keys := by
  induction d using entry_induction with
  | nil => exact List.Sublist.refl _
  | leaf key value rest hvalue ih =>
    rw [swept_leaf hvalue]
    split
    · exact ih.cons_cons key
    · exact ih.cons key
  | block key body rest _ ih =>
    rw [swept_block]
    split
    · exact ih.cons_cons key
    · exact ih.cons key

/-- A sweep keeps the order of the keys. -/
theorem Ordered.swept {d : Declaration} (h : d.Ordered) : (d.swept keep).Ordered := by
  induction d using entry_induction with
  | nil => exact h
  | leaf key value rest hvalue ih =>
    rw [swept_leaf hvalue]
    split
    · exact ⟨fun k hk => h.1 k (rest.keys_swept_sublist.subset hk), h.2.1, ih h.2.2⟩
    · exact ih h.2.2
  | block key body rest ihBody ihRest =>
    rw [swept_block]
    split
    · exact ⟨fun k hk => h.1 k (rest.keys_swept_sublist.subset hk), ihBody h.2.1, ihRest h.2.2⟩
    · exact ihRest h.2.2

end Declaration

/-- Whether a value is undefined or a block without entries. -/
def StyleValue.isVoid : StyleValue → Bool
  | .undefined => true
  | .block .nil => true
  | _ => false

/-- A void block has no entries. -/
theorem StyleValue.eq_nil_of_isVoid {body : Declaration} (h : (!(block body).isVoid) = false) :
    body = .nil := by
  cases body with
  | nil => rfl
  | cons key value rest => simp [isVoid] at h

/-! ## Congruence of layouts -/

/-- Blocks below each other have the same lines if their parts have. -/
theorem separated_append_congr {blocks blocks' more more' : List (List String)}
    (h : separated blocks = separated blocks') (hmore : separated more = separated more') :
    separated (blocks ++ more) = separated (blocks' ++ more') := by
  rw [separated_append, separated_append, h, hmore]

namespace Rule

/-- Exactly the rules that are written have lines. -/
theorem isEmpty_layout (depth : Nat) (label : Option String) (rule : Rule) :
    (!(rule.layout depth label).isEmpty) = rule.isWritten := by
  rw [Bool.eq_iff_iff, isWritten]
  simp [layout_eq_nil_iff]

/-- Rules that are not written do not matter for the lines of a level. -/
theorem separated_congr {rules rules' : List Rule}
    (h : rules.filter isWritten = rules'.filter isWritten) (depth : Nat) (label : Option String) :
    separated (rules.map (·.layout depth label)) = separated (rules'.map (·.layout depth label)) := by
  have hshown (rules : List Rule) : separated (rules.map (·.layout depth label)) =
      [""].intercalate ((rules.filter isWritten).map (·.layout depth label)) := by
    rw [separated, List.filter_map]
    congr 2
    apply List.filter_congr
    intro rule _
    exact rule.isEmpty_layout depth label
  rw [hshown, hshown, h]

end Rule

/-- Nor do they matter for the lines of keyframes. -/
theorem Keyframes.layout_congr {name : String} {frames frames' : Declaration}
    (h : (mk name frames).rules.filter Rule.isWritten = (mk name frames').rules.filter Rule.isWritten) :
    (mk name frames).layout = (mk name frames').layout := by
  have hshown (rules : List Rule) : rules.flatMap (·.layout 1 none) =
      (rules.filter Rule.isWritten).flatMap (·.layout 1 none) := by
    induction rules with
    | nil => rfl
    | cons rule rest ih =>
      cases hwritten : rule.isWritten with
      | true => rw [List.filter_cons_of_pos hwritten, List.flatMap_cons, List.flatMap_cons, ih]
      | false =>
        have hnone : rule.layout 1 none = [] := by
          rw [Rule.layout_eq_nil_iff]
          simpa [Rule.isWritten] using hwritten
        rw [List.filter_cons_of_neg (by simp [hwritten]), List.flatMap_cons, hnone, ih]
        rfl
  simp only [layout, hshown (mk name frames).rules, hshown (mk name frames').rules, h]

/-! ## What a sweep keeps -/

/-- Whether a test fails only for labels, undefined values, and blocks without entries. -/
def DropsUnseen (keep : String → StyleValue → Bool) : Prop :=
  ∀ key value, keep key value = false →
    key = labelKey ∨ value = .undefined ∨ value = .block .nil

theorem MediaQuery.layoutAll_append (scope : Scope) (depth : Nat) (medias more : List MediaQuery) :
    layoutAll scope depth (medias ++ more) =
      layoutAll scope depth medias ++ layoutAll scope depth more := by
  simp only [layoutAll_eq_map, List.map_append]

namespace Declaration

/-- Whether no label with a rule to write is left out where it stands for an offset. -/
def KeepsOffsets (keep : String → StyleValue → Bool) (frames : Declaration) : Prop :=
  ∀ e ∈ frames.entries, e.1 = labelKey → ∀ body ∈ e.2.block?,
    keep labelKey (.block (body.swept keep)) = false →
      ∀ rule ∈ body.rules labelKey none, rule.isWritten = false

instance (keep : String → StyleValue → Bool) (frames : Declaration) :
    Decidable (frames.KeepsOffsets keep) :=
  inferInstanceAs (Decidable (∀ e ∈ frames.entries, e.1 = labelKey → ∀ body ∈ e.2.block?,
    keep labelKey (.block (body.swept keep)) = false →
      ∀ rule ∈ body.rules labelKey none, rule.isWritten = false))

/-! ### At-rules of single entries -/

/-- Media queries are found entry by entry. -/
theorem mediaQueries_cons (key : String) (value : StyleValue) (rest : Declaration) :
    (cons key value rest).mediaQueries = (cons key value nil).mediaQueries ++ rest.mediaQueries := by
  cases value <;> simp [mediaQueries]

/-- Keyframes are found entry by entry. -/
theorem keyframes_cons (key : String) (value : StyleValue) (rest : Declaration) :
    (cons key value rest).keyframes = (cons key value nil).keyframes ++ rest.keyframes := by
  cases value <;> simp [keyframes]

/-- A label and a block without entries hold no media query with lines. -/
theorem media_unseen {key : String} {body : Declaration} (h : key = labelKey ∨ body = nil)
    (scope : Scope) (depth : Nat) :
    separated (MediaQuery.layoutAll scope depth (cons key (.block body) nil).mediaQueries) = [] := by
  rw [mediaQueries_block]
  rcases h with rfl | rfl
  · rfl
  · split
    · rfl
    split
    · rfl
    · rfl

/-- Nor do they hold keyframes with lines. -/
theorem keyframes_unseen {key : String} {body : Declaration} (h : key = labelKey ∨ body = nil) :
    separated ((cons key (.block body) nil).keyframes.map Keyframes.layout) = [] := by
  rw [keyframes_block]
  rcases h with rfl | rfl
  · rfl
  · split
    · rfl
    split
    · rfl
    · rfl

/-! ### All walks -/

section Swept

variable {keep : String → StyleValue → Bool} (hkeep : DropsUnseen keep)

include hkeep

/-- A block that is left out is a label, or nothing is left of it. -/
theorem eq_label_or_swept_eq_nil {key : String} {body : Declaration}
    (h : keep key (.block (body.swept keep)) = false) : key = labelKey ∨ body.swept keep = nil := by
  rcases hkeep key _ h with hlabel | hundefined | hempty
  · exact .inl hlabel
  · cases hundefined
  · exact .inr (StyleValue.block.inj hempty)

/-- A sweep keeps the declaration lines of a level. -/
theorem lines_swept (d : Declaration) : (d.swept keep).lines = d.lines := by
  induction d using entry_induction with
  | nil => rfl
  | leaf key value rest hvalue ih =>
    rw [swept_leaf hvalue]
    split
    · simp only [lines, entries_cons, List.filterMap_cons] at ih ⊢
      rw [ih]
    · rename_i hdropped
      have hnone : propertyLine key value = none := by
        rcases hkeep key value (by simpa using hdropped) with rfl | rfl | rfl
        · simp [propertyLine, RuleKind.classify]
        · simp [propertyLine, propertyValue]
        · simp [StyleValue.isBlock, StyleValue.block?] at hvalue
      rw [ih, lines, lines, entries_cons, List.filterMap_cons, hnone]
  | block key body rest _ ih =>
    rw [swept_block, lines_block]
    split
    · rw [lines_block, ih]
    · exact ih

/-- Sweeping does not change the lines of a level. -/
theorem ofLevel_swept (selector : String) (d : Declaration) :
    Rule.ofLevel selector (d.swept keep) = Rule.ofLevel selector d := by
  rw [Rule.ofLevel, lines_swept hkeep, Rule.ofLevel]

/-- A sweep keeps the nested rules that are written. -/
theorem filter_nestedRules_swept (d : Declaration) (parent : String) (combinator : Option String) :
    ((d.swept keep).nestedRules parent combinator).filter Rule.isWritten =
      (d.nestedRules parent combinator).filter Rule.isWritten := by
  induction d using entry_induction generalizing parent combinator with
  | nil => rfl
  | leaf key value rest hvalue ih =>
    rw [swept_leaf hvalue, nestedRules_leaf hvalue]
    split
    · rw [nestedRules_leaf hvalue, ih]
    · exact ih parent combinator
  | block key body rest ihBody ihRest =>
    have hbody (selector : String) : ((body.swept keep).rules selector none).filter Rule.isWritten =
        (body.rules selector none).filter Rule.isWritten := by
      rw [rules, rules, ofLevel_swept hkeep, List.filter_cons, List.filter_cons, ihBody]
    rw [swept_block, nestedRules_block, List.filter_append, ← ihRest]
    split
    · rw [nestedRules_block, List.filter_append]
      congr 1
      split
      · rfl
      · exact hbody _
    · rename_i hdropped
      split
      · rfl
      · rename_i hplain
        -- Neither a label nor an at-rule: nothing is left of the block, so it wrote no rule.
        rcases eq_label_or_swept_eq_nil hkeep (by simpa using hdropped) with hlabel | hnil
        · exact absurd (.inl hlabel) hplain
        · rw [← hbody, hnil]
          rfl

/-- A sweep keeps the rules that are written. -/
theorem filter_rules_swept (d : Declaration) (selector : String) (combinator : Option String) :
    ((d.swept keep).rules selector combinator).filter Rule.isWritten =
      (d.rules selector combinator).filter Rule.isWritten := by
  rw [rules, rules, ofLevel_swept hkeep, List.filter_cons, List.filter_cons,
    filter_nestedRules_swept hkeep]

/-- A media query has the same lines after a sweep of its body. -/
theorem layout_swept {body : Declaration} {scope : Scope}
    (hnested : ∀ depth,
      separated (MediaQuery.layoutAll scope depth (body.swept keep).mediaQueries) =
        separated (MediaQuery.layoutAll scope depth body.mediaQueries))
    (query : String) (depth : Nat) :
    (MediaQuery.mk query (body.swept keep) (body.swept keep).mediaQueries).layout scope depth =
      (MediaQuery.mk query body body.mediaQueries).layout scope depth := by
  simp only [MediaQuery.layout, hnested,
    Rule.separated_congr (filter_rules_swept hkeep body scope.selector scope.combinator)]

/-- A sweep keeps the lines of the media queries. -/
theorem separated_media_swept (d : Declaration) (scope : Scope) (depth : Nat) :
    separated (MediaQuery.layoutAll scope depth (d.swept keep).mediaQueries) =
      separated (MediaQuery.layoutAll scope depth d.mediaQueries) := by
  induction d using entry_induction generalizing depth with
  | nil => rfl
  | leaf key value rest hvalue ih =>
    rw [swept_leaf hvalue, mediaQueries_leaf hvalue]
    split
    · rw [mediaQueries_leaf hvalue, ih]
    · exact ih depth
  | block key body rest ihBody ihRest =>
    have hentry : separated (MediaQuery.layoutAll scope depth
          (cons key (.block (body.swept keep)) nil).mediaQueries) =
        separated (MediaQuery.layoutAll scope depth (cons key (.block body) nil).mediaQueries) := by
      have hnil : nil.mediaQueries = [] := rfl
      rw [mediaQueries_block, mediaQueries_block, hnil, List.append_nil, List.append_nil]
      split
      · rfl
      split
      · rw [MediaQuery.layoutAll, MediaQuery.layoutAll, layout_swept hkeep ihBody]
        rfl
      · exact ihBody depth
    rw [mediaQueries_cons key (.block body), MediaQuery.layoutAll_append, swept_block]
    split
    · rw [mediaQueries_cons, MediaQuery.layoutAll_append]
      exact separated_append_congr hentry (ihRest depth)
    · rename_i hdropped
      have hunseen := eq_label_or_swept_eq_nil hkeep (by simpa using hdropped)
      rw [separated_append, if_pos (hentry ▸ media_unseen hunseen scope depth)]
      exact ihRest depth

/-- A sweep keeps the rules of keyframes that are written, if it leaves out no label with such a
rule. -/
theorem filter_frames_swept (name : String) {frames : Declaration}
    (h : frames.KeepsOffsets keep) :
    (Keyframes.mk name (frames.swept keep)).rules.filter Rule.isWritten =
      (Keyframes.mk name frames).rules.filter Rule.isWritten := by
  induction frames using entry_induction with
  | nil => rfl
  | leaf key value rest hvalue ih =>
    have hrest := ih fun e he => h e (List.mem_cons_of_mem _ he)
    rw [swept_leaf hvalue, Keyframes.rules_leaf hvalue]
    split
    · rw [Keyframes.rules_leaf hvalue, hrest]
    · exact hrest
  | block offset body rest _ ih =>
    have hrest := ih fun e he => h e (List.mem_cons_of_mem _ he)
    rw [swept_block, Keyframes.rules_block, List.filter_append, ← hrest]
    split
    · rw [Keyframes.rules_block, List.filter_append, filter_rules_swept hkeep]
    · rename_i hdropped
      rw [Bool.not_eq_true] at hdropped
      have hnone : (body.rules offset none).filter Rule.isWritten = [] := by
        rcases eq_label_or_swept_eq_nil hkeep hdropped with rfl | hnil
        · rw [List.filter_eq_nil_iff]
          intro rule hrule
          rw [h _ List.mem_cons_self rfl body rfl hdropped rule hrule]
          decide
        · rw [← filter_rules_swept hkeep, hnil]
          rfl
      rw [hnone]
      rfl

/-- A sweep keeps the lines of the keyframes, if it leaves out no label in them with a rule. -/
theorem separated_keyframes_swept {d : Declaration}
    (h : ∀ k ∈ d.keyframes, k.frames.KeepsOffsets keep) :
    separated ((d.swept keep).keyframes.map Keyframes.layout) =
      separated (d.keyframes.map Keyframes.layout) := by
  induction d using entry_induction with
  | nil => rfl
  | leaf key value rest hvalue ih =>
    rw [keyframes_leaf hvalue] at h
    rw [swept_leaf hvalue, keyframes_leaf hvalue]
    split
    · rw [keyframes_leaf hvalue, ih h]
    · exact ih h
  | block key body rest ihBody ihRest =>
    rw [keyframes_cons, List.forall_mem_append] at h
    have hentry : separated ((cons key (.block (body.swept keep)) nil).keyframes.map Keyframes.layout) =
        separated ((cons key (.block body) nil).keyframes.map Keyframes.layout) := by
      have hhere := h.1
      rw [keyframes_block] at hhere ⊢
      rw [keyframes_block]
      split
      · rfl
      · rename_i hlabel
        rw [if_neg hlabel] at hhere
        split
        · rename_i hframes
          rw [if_pos hframes] at hhere
          have hlayout := Keyframes.layout_congr
            (filter_frames_swept hkeep key (hhere ⟨key, body⟩ (by simp [keyframes])))
          simp only [keyframes, List.append_nil, List.map_singleton, hlayout]
        · rename_i hframes
          rw [if_neg hframes] at hhere
          simpa [keyframes] using ihBody fun k hk => hhere k (by simp [hk])
    rw [keyframes_cons key (.block body), List.map_append, swept_block]
    split
    · rw [keyframes_cons, List.map_append]
      exact separated_append_congr hentry (ihRest h.2)
    · rename_i hdropped
      have hunseen := eq_label_or_swept_eq_nil hkeep (by simpa using hdropped)
      rw [separated_append, if_pos (hentry ▸ keyframes_unseen hunseen)]
      exact ihRest h.2

/-- A sweep keeps the lines of an object, if it leaves out no label in keyframes with a rule. -/
theorem separated_blocks_swept {d : Declaration}
    (h : ∀ k ∈ d.keyframes, k.frames.KeepsOffsets keep) (scope : Scope) :
    separated ((d.swept keep).blocks scope) = separated (d.blocks scope) :=
  separated_append_congr
    (separated_append_congr (Rule.separated_congr (filter_rules_swept hkeep d _ _) 0 scope.label)
      (separated_media_swept hkeep d scope 0))
    (separated_keyframes_swept hkeep h)

end Swept

end Declaration

/-! ## Records -/

/-- The module with the declarations of its objects swept. -/
def StyleModule.swept (keep : String → StyleValue → Bool) (m : StyleModule) : StyleModule :=
  ⟨m.objects.map (·.swept keep), fun e he => by
    obtain ⟨o, ho, rfl⟩ := List.mem_map.1 he
    exact (m.ordered o ho).swept⟩

/-- The record with the declarations of its objects swept. -/
def Record.swept (keep : String → StyleValue → Bool) (r : Record) : Record :=
  { r with styles := r.styles.swept keep }

namespace Record

variable {keep : String → StyleValue → Bool}

/-- Sweeping the objects changes their declarations alone. -/
theorem compiled_swept (r : Record) :
    (r.swept keep).compiled = r.compiled.map fun e => (e.1, e.2.swept keep) :=
  List.filter_map

/-- After sweeping only entries are left that are kept. -/
theorem everyEntry_swept (r : Record) :
    ∀ e ∈ (r.swept keep).styles.entries, e.2.everyEntry keep = true := by
  intro e he
  obtain ⟨o, _, rfl⟩ := List.mem_map.1 he
  exact o.2.everyEntry_swept

/-- The objects stay. -/
theorem names_swept (r : Record) : (r.swept keep).styles.names = r.styles.names := by
  simp [swept, StyleModule.swept, StyleModule.names, Dict.names]

/-- So do the selectors that they report. -/
theorem lookup_swept (r : Record) : (r.swept keep).lookup = r.lookup := by
  rw [lookup_eq, lookup_eq, reported, reported, names_swept]
  rfl

/-- A sweep that leaves out what cannot be seen does not change the sheet. -/
theorem compile_swept (hkeep : DropsUnseen keep) {r : Record}
    (h : ∀ e ∈ r.compiled, ∀ k ∈ e.2.keyframes, k.frames.KeepsOffsets keep) :
    (r.swept keep).compile = r.compile := by
  have hblocks : separated (r.swept keep).blocks = separated r.blocks := by
    rw [blocks, blocks, compiled_swept, List.flatMap_map, separated_flatMap, separated_flatMap]
    congr 1
    apply List.map_congr_left
    intro e he
    exact Declaration.separated_blocks_swept hkeep (h e he) (r.scope e.1)
  rw [compile, compile, css, css, hblocks, lookup_swept]
  rfl

/-! ### Labels -/

/-- The record without the entries whose key is the label, at every depth. -/
def withoutLabels (r : Record) : Record :=
  r.swept fun key _ => key != labelKey

/-- Labels are never seen in a sheet. -/
theorem dropsUnseen_labels : DropsUnseen fun key _ => key != labelKey := by
  intro key value h
  exact .inl (by simpa using h)

/-- Labels do not influence the sheet, whatever their values and at whatever depth, if none of them
stands directly in keyframes as a block with a rule to write. -/
theorem compile_withoutLabels {r : Record}
    (h : ∀ e ∈ r.compiled, ∀ k ∈ e.2.keyframes, ∀ entry ∈ k.frames.entries, entry.1 = labelKey →
      ∀ body ∈ entry.2.block?, ∀ rule ∈ body.rules labelKey none, rule.isWritten = false) :
    r.withoutLabels.compile = r.compile ∧
    ∀ e ∈ r.withoutLabels.styles.entries, e.2.everyEntry (fun key _ => key != labelKey) = true := by
  refine ⟨compile_swept dropsUnseen_labels ?_, r.everyEntry_swept⟩
  intro e he k hk entry hentry hlabel body hbody _
  exact h e he k hk entry hentry hlabel body hbody

/-- Labels of all kinds: in an object, in a rule, as a whole block with an at-rule, in a media query,
in an offset, and in keyframes. -/
def labelled : Record :=
  { ofModule (.ofList [
      ("nav", .cons "label" (.text "Navigation") (.cons "color" (.text "red") (.cons "a" (.block
        (.cons "label" (.block (.cons "@media print" (.block (.cons "top" (.text "0") .nil)) .nil))
          (.cons "left" (.text "0") .nil))) .nil))),
      ("tab", .cons "@keyframes spin" (.block (.cons "label" (.block (.cons "a" (.block .nil) .nil))
        (.cons "to" (.block (.cons "label" (.number .nan) (.cons "opacity" (.text "1") .nil)))
          .nil))) .nil)]) with
    map := true }

theorem compile_withoutLabels_labelled :
    (∀ e ∈ labelled.compiled, ∀ k ∈ e.2.keyframes, ∀ entry ∈ k.frames.entries, entry.1 = labelKey →
      ∀ body ∈ entry.2.block?, ∀ rule ∈ body.rules labelKey none, rule.isWritten = false) ∧
    labelled.withoutLabels.compile = labelled.compile ∧
    ∀ e ∈ labelled.withoutLabels.styles.entries,
      e.2.everyEntry (fun key _ => key != labelKey) = true := by
  have hidle : ∀ e ∈ labelled.compiled, ∀ k ∈ e.2.keyframes, ∀ entry ∈ k.frames.entries,
      entry.1 = labelKey → ∀ body ∈ entry.2.block?, ∀ rule ∈ body.rules labelKey none,
        rule.isWritten = false := by
    decide +kernel
  exact ⟨hidle, compile_withoutLabels hidle⟩

/-- A label with a declaration, where keyframes hold their offsets. -/
def labelledFrames : Record :=
  ofModule (.ofList [("a", .cons "@keyframes b" (.block
    (.cons "from" (.block (.cons "margin-top" (.text "2em") .nil))
      (.cons "label" (.block (.cons "margin-top" (.text "0") .nil)) .nil))) .nil)])

/-- Among the offsets of keyframes, the label is written. -/
theorem css_labelledFrames :
    labelledFrames.css = "@keyframes b \x7b\n  from \x7b\n    margin-top: 2em;\n  \x7d\n" ++
      "  label \x7b\n    margin-top: 0;\n  \x7d\n\x7d" ∧
    labelledFrames.withoutLabels.css =
      "@keyframes b \x7b\n  from \x7b\n    margin-top: 2em;\n  \x7d\n\x7d" := by
  constructor
  · rw [css_eq_intercalate (by decide +kernel)]
    decide +kernel
  · rw [css_eq_intercalate (by decide +kernel)]
    decide +kernel

/-! ### Undefined values and empty blocks -/

/-- The record without undefined values, and without the blocks that hold nothing else, at every
depth; the objects stay. -/
def pruned (r : Record) : Record :=
  r.swept fun _ value => !value.isVoid

/-- Void entries are never seen in a sheet. -/
theorem dropsUnseen_void : DropsUnseen fun _ value => !value.isVoid := by
  intro key value h
  cases value with
  | undefined => exact .inr (.inl rfl)
  | number x => simp [StyleValue.isVoid] at h
  | text s => simp [StyleValue.isVoid] at h
  | block body =>
    obtain rfl := StyleValue.eq_nil_of_isVoid h
    exact .inr (.inr rfl)

/-- A label of which nothing is left has no rule to write. -/
theorem keepsOffsets_void (frames : Declaration) :
    frames.KeepsOffsets fun _ value => !value.isVoid := by
  intro e _ _ body _ hdropped rule hrule
  have hnil := StyleValue.eq_nil_of_isVoid hdropped
  have hnone := Declaration.filter_rules_swept dropsUnseen_void body labelKey none
  rw [hnil] at hnone
  simpa using List.filter_eq_nil_iff.1 hnone.symm rule hrule

/-- Undefined values and empty blocks cannot be seen: without them, the objects compile to the same
sheet. -/
theorem compile_pruned (r : Record) :
    r.pruned.compile = r.compile ∧ r.pruned.styles.names = r.styles.names ∧
    ∀ e ∈ r.pruned.styles.entries, e.2.everyEntry (fun _ value => !value.isVoid) = true := by
  refine ⟨compile_swept dropsUnseen_void ?_, names_swept r, r.everyEntry_swept⟩
  intro e _ k _
  exact keepsOffsets_void k.frames

end Record

end StyleObjects
