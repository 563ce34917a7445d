import StyleObjects.Proofs.InertSettings
import StyleObjects.Proofs.LookupMaps
import StyleObjects.Proofs.Readback

/-!
# The pieces of a sheet

The objects of a record are compiled independently of each other.  The text of a sheet consists of
the sheets that its objects have on their own, by ascending name and with one empty line in between,
where objects without text leave no trace.

Main results:

- `separated_flatMap`: blocks may be put together item by item.
- `Record.css_eq_joinPieces`: the text of a sheet is made of one piece for each object.
- `Record.compile_pieces`: the pieces are the sheets of the objects on their own, and changing one
  object changes its own piece alone.
-/

namespace StyleObjects

/-! ## Joining texts -/

/-- Blocks may be put together item by item. -/
theorem separated_flatMap {α : Type} (items : List α) (blocks : α → List (List String)) :
    separated (items.flatMap blocks) = separated (items.map fun item => separated (blocks item)) := by
  induction items with
  | nil => rfl
  | cons item items ih =>
    rw [List.flatMap_cons, List.map_cons, separated_append,
      ← List.singleton_append (l := items.map _), separated_append, separated_singleton, ih]

/-- Texts below each other with one empty line in between; empty texts are left out. -/
def joinPieces (pieces : List String) : String :=
  "\n\n".intercalate (pieces.filter (· ≠ ""))

/-- Lines that are separated by empty lines, as one text. -/
theorem intercalate_blocks {blocks : List (List String)} (h : ∀ block ∈ blocks, block ≠ []) :
    "\n".intercalate ([""].intercalate blocks) =
      "\n\n".intercalate (blocks.map ("\n".intercalate ·)) := by
  induction blocks with
  | nil => rfl
  | cons block rest ih =>
    have hblock : block ≠ [] := h block (by simp)
    have htext := ih fun other hother => h other (by simp [hother])
    match rest with
    | [] => simp
    | next :: rest =>
      have hrest : [""].intercalate (next :: rest) ≠ [] := by
        have hnext : next ≠ [] := h next (by simp)
        cases rest with
        | nil => simpa using hnext
        | cons other rest => simp
      rw [List.intercalate_cons_cons, List.append_assoc,
        String.intercalate_append_of_ne_nil hblock (by simp), List.singleton_append,
        String.intercalate_cons_of_ne_nil hrest, htext, List.map_cons (l := next :: rest),
        String.intercalate_cons_of_ne_nil (l := List.map _ _) (by simp)]
      have hgap : "\n" ++ ("" ++ "\n") = "\n\n" := rfl
      rw [← hgap]
      simp only [String.append_assoc]

/-- A text that starts with a visible character is not empty. -/
theorem StartsDark.intercalate_ne_empty {lines : List String} (h : StartsDark lines)
    (hlines : lines ≠ []) : "\n".intercalate lines ≠ "" := by
  obtain ⟨line, rest, rfl⟩ := List.exists_cons_of_ne_nil hlines
  obtain ⟨c, hc, _⟩ := h line rfl
  intro hempty
  have hhead : (['\n'].intercalate (line.toList :: characters rest)).head? = some c :=
    head?_intercalate hc
  have htext : ("\n".intercalate (line :: rest)).toList =
      ['\n'].intercalate (line.toList :: characters rest) :=
    String.toList_intercalate
  rw [← htext, hempty] at hhead
  simp at hhead

/-! ## One object at a time -/

/-- Among ascending entries there is one of a name at most. -/
theorem Ascending.filter_eq_singleton {α : Type} {entries : List (String × α)}
    (h : Ascending entries) {e : String × α} (he : e ∈ entries) :
    entries.filter (·.1 == e.1) = [e] := by
  induction entries with
  | nil => cases he
  | cons first rest ih =>
    obtain ⟨above, tail⟩ := List.pairwise_cons.1 h
    rcases List.mem_cons.1 he with rfl | hmem
    · have hrest : rest.filter (·.1 == e.1) = [] := by
        rw [List.filter_eq_nil_iff]
        intro other hother hname
        exact String.ne_of_lt (above other hother) (beq_iff_eq.1 hname).symm
      rw [List.filter_cons_of_pos (by simp), hrest]
    · have hne : first.1 ≠ e.1 := String.ne_of_lt (above e hmem)
      rw [List.filter_cons_of_neg (by simpa using hne), ih tail hmem]

/-- Binding a name again replaces its value in place. -/
theorem insertEntry_middle {α : Type} {before after : List (String × α)} {name : String} {old : α}
    (h : Ascending (before ++ (name, old) :: after)) (new : α) :
    insertEntry name new (before ++ (name, old) :: after) = before ++ (name, new) :: after := by
  induction before with
  | nil =>
    rw [List.nil_append, insertEntry, if_neg (String.lt_irrefl name), if_pos rfl]
    rfl
  | cons first rest ih =>
    obtain ⟨above, tail⟩ := List.pairwise_cons.1 h
    have hlt : first.1 < name := above (name, old) (by simp)
    rw [List.cons_append, insertEntry, if_neg (String.lt_asymm hlt),
      if_neg (String.ne_of_lt hlt).symm, ih tail]
    rfl

namespace Record

/-- The record with one object of its module alone. -/
def only (r : Record) (object : String) : Record :=
  r.keepObjects (· == object)

/-- The record with another declaration for an object. -/
def withObject (r : Record) (object : String) (d : Declaration) : Record :=
  { r with styles := r.styles.add object d }

/-- The text of one object of a record. -/
def piece (r : Record) (e : String × Declaration) : String :=
  "\n".intercalate (separated (e.2.blocks (r.scope e.1)))

/-- Objects are compiled by ascending name. -/
theorem ascending_compiled (r : Record) : Ascending r.compiled :=
  r.styles.objects.ascending.filter _

/-- A record with one object left compiles what there is of it. -/
theorem compiled_only_eq_filter (r : Record) (object : String) :
    (r.only object).compiled = r.compiled.filter (·.1 == object) := by
  rw [compiled, compiled, only, keepObjects, StyleModule.entries_filter, List.filter_filter,
    List.filter_filter]
  apply List.filter_congr
  intro e _
  exact Bool.and_comm _ _

/-- A compiled object is compiled alone if it is the only one. -/
theorem compiled_only {r : Record} {e : String × Declaration} (he : e ∈ r.compiled) :
    (r.only e.1).compiled = [e] := by
  rw [compiled_only_eq_filter, r.ascending_compiled.filter_eq_singleton he]

/-- A record keeps its selectors when one object is left. -/
theorem HasSelectors.only {r : Record} (h : r.HasSelectors) (object : String) :
    (r.only object).HasSelectors := by
  intro e he
  rw [compiled_only_eq_filter] at he
  exact h e (List.mem_filter.1 he).1

/-- The text of a sheet is made of one piece for each object. -/
theorem css_eq_joinPieces {r : Record} (h : r.HasSelectors) :
    r.css = joinPieces (r.compiled.map r.piece) := by
  have hdark : ∀ e ∈ r.compiled, StartsDark (separated (e.2.blocks (r.scope e.1))) := by
    intro e he
    exact separated_startsDark (Declaration.blocks_startsDark (h e he))
  rw [css_eq_intercalate h, blocks, separated_flatMap, separated,
    intercalate_blocks (by simp), joinPieces, List.filter_map, List.map_map, List.filter_map]
  apply congrArg
  -- A piece is empty exactly if its object has no lines.
  have hkept : r.compiled.filter (((!List.isEmpty ·) : List String → Bool) ∘
        fun e => separated (e.2.blocks (r.scope e.1))) =
      r.compiled.filter ((fun text => decide (text ≠ "")) ∘ r.piece) := by
    apply List.filter_congr
    intro e he
    cases hlines : separated (e.2.blocks (r.scope e.1)) with
    | nil => simp [piece, hlines]
    | cons line rest =>
      have hne := (hdark e he).intercalate_ne_empty (by simp [hlines])
      rw [hlines] at hne
      simpa [piece, hlines] using hne
  rw [hkept]
  rfl

/-- An object has the same piece when it stands alone. -/
theorem css_only {r : Record} (h : r.HasSelectors) {e : String × Declaration}
    (he : e ∈ r.compiled) : (r.only e.1).css = r.piece e := by
  rw [css_eq_joinPieces (h.only e.1), compiled_only he, List.map_singleton]
  have hpiece : (r.only e.1).piece e = r.piece e := rfl
  by_cases hempty : r.piece e = ""
  · simp [joinPieces, hpiece, hempty]
  · simp [joinPieces, hpiece, hempty]

/-- The map of selectors lists the compiled objects with what they report. -/
theorem compile_selectors (r : Record) :
    r.compile.selectors = r.compiled.map fun e => (e.1, (r.resolve e.1 r.base).reported) := by
  refine (Lookup.follows_ofList ?_).selectors
  rw [Ascending, List.pairwise_map]
  exact r.ascending_compiled

/-! ## Changing one object -/

/-- The objects around a given one keep their places when it is declared anew. -/
theorem entries_withObject {r : Record} {object : String} {old : Declaration}
    {before after : List (String × Declaration)}
    (h : r.styles.entries = before ++ (object, old) :: after) (d : Declaration) :
    (r.withObject object d).styles.entries = before ++ (object, d.sorted) :: after := by
  have hascending : Ascending r.styles.entries := r.styles.objects.ascending
  rw [h] at hascending
  have hinsert := insertEntry_middle hascending d.sorted
  rw [← h] at hinsert
  exact hinsert

/-- The text of a sheet around one object, which may be ignored. -/
theorem css_around {r : Record} (h : r.HasSelectors) {object : String} {d : Declaration}
    {before after : List (String × Declaration)}
    (hentries : r.styles.entries = before ++ (object, d) :: after) :
    r.css = joinPieces ((before.filter fun e => !r.isIgnored e.1).map r.piece ++
      [(r.only object).css] ++ (after.filter fun e => !r.isIgnored e.1).map r.piece) := by
  have hcompiled : r.compiled = (before.filter fun e => !r.isIgnored e.1) ++
      [(object, d)].filter (fun e => !r.isIgnored e.1) ++
        after.filter fun e => !r.isIgnored e.1 := by
    rw [compiled, hentries, List.append_cons, List.filter_append, List.filter_append]
  rw [css_eq_joinPieces h, hcompiled, List.map_append, List.map_append]
  by_cases hignored : r.isIgnored object = true
  · have hnone : (r.only object).compiled = [] := by
      rw [compiled_only_eq_filter, List.filter_eq_nil_iff]
      intro e he hname
      obtain rfl := beq_iff_eq.1 hname
      rw [not_isIgnored_of_mem_compiled he] at hignored
      cases hignored
    have hempty : (r.only object).css = "" := by
      rw [css_eq_joinPieces (h.only object), hnone]
      rfl
    rw [hempty]
    simp [joinPieces, hignored]
  · have hmem : (object, d) ∈ r.compiled := by
      rw [hcompiled]
      simp [hignored]
    rw [css_only h hmem]
    simp [hignored]

/-- The lookup maps do not depend on the declarations. -/
theorem lookup_withObject {r : Record} {object : String} (h : r.styles.has object = true)
    (d : Declaration) : (r.withObject object d).lookup = r.lookup := by
  obtain ⟨⟨name, old⟩, he, rfl⟩ := StyleModule.has_eq_true_iff.1 h
  obtain ⟨before, after, hentries⟩ := List.append_of_mem he
  have hnames : (r.withObject name d).styles.names = r.styles.names := by
    change (r.withObject name d).styles.entries.map _ = r.styles.entries.map _
    rw [hentries, entries_withObject hentries]
    simp
  rw [lookup_eq, lookup_eq, reported, reported, hnames]
  rfl

/-- If every rule that is written outside of at-rules has a selector, then the objects of a record
are compiled independently.  The text of its sheet consists of the texts of its objects on their own,
by ascending name, and so does the map of selectors.  Another declaration for one object changes the
piece of that object alone. -/
theorem compile_pieces {r : Record} (h : r.HasSelectors) :
    Ascending r.compiled ∧
    r.compile.css = joinPieces (r.compiled.map fun e => (r.only e.1).compile.css) ∧
    r.compile.selectors = r.compiled.flatMap (fun e => (r.only e.1).compile.selectors) ∧
    ∀ object d, r.styles.has object = true → (r.withObject object d).HasSelectors →
      (∃ before after,
        r.compile.css = joinPieces (before ++ [(r.only object).compile.css] ++ after) ∧
        (r.withObject object d).compile.css =
          joinPieces (before ++ [((r.withObject object d).only object).compile.css] ++ after)) ∧
      (r.withObject object d).compile.selectors = r.compile.selectors ∧
      (r.withObject object d).compile.objects = r.compile.objects := by
  refine ⟨r.ascending_compiled, ?_, ?_, ?_⟩
  · have hpieces : r.compiled.map (fun e => (r.only e.1).compile.css) = r.compiled.map r.piece := by
      apply List.map_congr_left
      intro e he
      exact css_only h he
    rw [hpieces]
    exact css_eq_joinPieces h
  · rw [compile_selectors, List.map_eq_flatMap]
    apply List.flatMap_congr
    intro e he
    rw [compile_selectors, compiled_only he]
    rfl
  · intro object d hobject hchanged
    obtain ⟨⟨name, old⟩, he, rfl⟩ := StyleModule.has_eq_true_iff.1 hobject
    obtain ⟨before, after, hentries⟩ := List.append_of_mem he
    have hlookup := lookup_withObject hobject d
    refine ⟨⟨_, _, css_around h hentries, css_around hchanged (entries_withObject hentries d)⟩, ?_, ?_⟩
    · exact congrArg Lookup.selectors hlookup
    · exact congrArg Lookup.objects hlookup

theorem compile_pieces_sample :
    let tab := Declaration.cons "color" (.text "blue") .nil
    (sample.HasSelectors ∧ (sample.withObject "tab" tab).HasSelectors ∧
      sample.styles.has "tab" = true) ∧
    sample.compile.css = joinPieces (sample.compiled.map fun e => (sample.only e.1).compile.css) ∧
    ∃ before after,
      sample.compile.css = joinPieces (before ++ [(sample.only "tab").compile.css] ++ after) ∧
      (sample.withObject "tab" tab).compile.css =
        joinPieces (before ++ [((sample.withObject "tab" tab).only "tab").compile.css] ++ after) := by
  intro tab
  have hselectors : sample.HasSelectors := by decide +kernel
  have hchanged : (sample.withObject "tab" tab).HasSelectors := by decide +kernel
  have htab : sample.styles.has "tab" = true := by decide +kernel
  have hpieces := compile_pieces hselectors
  exact ⟨⟨hselectors, hchanged, htab⟩, hpieces.2.1, (hpieces.2.2.2 "tab" tab htab hchanged).1⟩

end Record

end StyleObjects
