import StyleObjects.Compile

/-!
# The lookup maps of a sheet

The objects of a record are recorded by ascending name, each with the selector that it reports.  The
map from objects to selectors lists them all.  The map from selectors to objects is kept in the order
of its objects, although an object that reports a selector again takes it from an earlier one.

Main results:

- `Lookup.Follows.record`: one more object keeps the maps in step with what was reported.
- `Lookup.follows_ofList`: after all objects the maps follow what was reported.
- `Record.compile_lookup`: what this says about the maps of a sheet.
-/

namespace StyleObjects

namespace Lookup

/-! ## Keeping in step -/

/-- Whether the maps follow the selectors that were reported, in this order. -/
structure Follows (reported : List (String × String)) (l : Lookup) : Prop where
  /-- Every object is listed. -/
  selectors : l.selectors = reported
  /-- A selector belongs to the greatest object that reported it. -/
  mem_objects : ∀ selector object, (selector, object) ∈ l.objects ↔
    (object, selector) ∈ reported ∧ ∀ other, (other, selector) ∈ reported → other ≤ object
  /-- Every reported selector belongs to an object. -/
  claimed : ∀ e ∈ reported, ∃ object, (e.2, object) ∈ l.objects
  /-- The selectors are listed in the order of their objects. -/
  ascending : l.objects.Pairwise fun a b => a.2 < b.2
  /-- An object that is not listed by its selector has lost it in a collision. -/
  count : l.collisions.length + l.objects.length = reported.length

namespace Follows

variable {reported : List (String × String)} {l : Lookup}

theorem empty : Follows [] Lookup.empty where
  selectors := rfl
  mem_objects := by simp [Lookup.empty]
  claimed := by simp
  ascending := .nil
  count := rfl

/-- A selector is listed once. -/
theorem nodup_keys (h : Follows reported l) : (l.objects.map (·.1)).Nodup := by
  rw [List.Nodup, List.pairwise_map]
  refine h.ascending.imp_of_mem ?_
  rintro ⟨selector, first⟩ ⟨other, second⟩ hfirst hsecond hlt rfl
  have hle : second ≤ first :=
    ((h.mem_objects _ _).1 hfirst).2 second ((h.mem_objects _ _).1 hsecond).1
  exact String.not_le.2 hlt hle

end Follows

/-- Without the entry of a key there is one entry less, if the key has one. -/
theorem length_filter_ne {entries : List (String × String)} (h : (entries.map (·.1)).Nodup)
    (key : String) :
    (entries.filter (·.1 != key)).length + (entries.lookup key).toList.length = entries.length := by
  induction entries with
  | nil => rfl
  | cons entry rest ih =>
    obtain ⟨name, value⟩ := entry
    obtain ⟨hfirst, hrest⟩ := List.nodup_cons.1 h
    by_cases hname : name = key
    · subst hname
      have hkept : rest.filter (·.1 != name) = rest := by
        rw [List.filter_eq_self]
        intro e he
        simpa using fun hkey : e.1 = name => hfirst (List.mem_map.2 ⟨e, he, hkey⟩)
      simp [hkept]
    · have hkey : (key == name) = false := by simpa using Ne.symm hname
      have hlength := ih hrest
      rw [List.filter_cons_of_pos (by simpa using hname), List.lookup_cons, hkey]
      simp only [List.length_cons] at hlength ⊢
      omega

/-- With distinct keys, looking up is membership. -/
theorem lookup_eq_some_iff {entries : List (String × String)} (h : (entries.map (·.1)).Nodup)
    {key value : String} : entries.lookup key = some value ↔ (key, value) ∈ entries := by
  induction entries with
  | nil => simp
  | cons entry rest ih =>
    obtain ⟨name, first⟩ := entry
    obtain ⟨hfirst, hrest⟩ := List.nodup_cons.1 h
    by_cases hname : key = name
    · subst hname
      have hnot : (key, value) ∉ rest := fun hmem => hfirst (List.mem_map.2 ⟨_, hmem, rfl⟩)
      simp [hnot, eq_comm]
    · have hkey : (key == name) = false := by simpa using hname
      simp [List.lookup_cons, hkey, hname, ih hrest]

namespace Follows

variable {reported : List (String × String)} {l : Lookup} {object selector : String}

/-- The object of a selector is the one that is listed for it. -/
theorem objectFor_eq_some_iff (h : Follows reported l) {object selector : String} :
    l.objectFor selector = some object ↔ (selector, object) ∈ l.objects :=
  lookup_eq_some_iff h.nodup_keys

/-- Every object that the maps know was reported, and so comes before a later one. -/
theorem lt_of_mem_objects (h : Follows reported l) (hlater : ∀ e ∈ reported, e.1 < object)
    {e : String × String} (he : e ∈ l.objects) : e.2 < object :=
  hlater (e.2, e.1) ((h.mem_objects e.1 e.2).1 he).1

/-- If a selector was reported before, then its object is noted as having lost it, and otherwise the
selector is new. -/
theorem count_record (h : Follows reported l) (hlater : ∀ e ∈ reported, e.1 < object) :
    (l.record object selector).collisions.length + (l.record object selector).objects.length =
      reported.length + 1 := by
  have hlength : (l.objects.filter (·.1 != selector)).length +
      (l.objectFor selector).toList.length = l.objects.length :=
    length_filter_ne h.nodup_keys selector
  have hcount := h.count
  cases hprevious : l.objectFor selector with
  | none =>
    simp only [hprevious, Option.toList_none, List.length_nil] at hlength
    simp only [Lookup.record, hprevious, Option.filter_none, Option.map_none, Option.toList_none,
      List.length_append, List.length_nil, List.length_singleton]
    omega
  | some previous =>
    have hlt := h.lt_of_mem_objects hlater (h.objectFor_eq_some_iff.1 hprevious)
    have hlost : (some previous).filter (· ≠ object) = some previous := by
      simpa using String.ne_of_lt hlt
    simp only [hprevious, Option.toList_some, List.length_singleton] at hlength
    simp only [Lookup.record, hprevious, hlost, Option.map_some, Option.toList_some,
      List.length_append, List.length_singleton]
    omega

/-- One more object, later than the others, keeps the maps in step with what was reported. -/
theorem record (h : Follows reported l) (hlater : ∀ e ∈ reported, e.1 < object) :
    Follows (reported ++ [(object, selector)]) (l.record object selector) where
  selectors := by
    rw [Lookup.record, h.selectors]
    exact setEntry_of_forall_ne fun e he => String.ne_of_lt (hlater e he)
  mem_objects := by
    intro s o
    have hobject : ∀ other, (other, s) ∈ reported → other ≤ object := fun other hother =>
      String.not_lt.1 (String.lt_asymm (hlater _ hother))
    simp only [Lookup.record, List.mem_append, List.mem_filter, List.mem_singleton,
      Prod.mk.injEq, bne_iff_ne, h.mem_objects]
    constructor
    · rintro (⟨⟨hmem, hgreatest⟩, hs⟩ | ⟨rfl, rfl⟩)
      · refine ⟨.inl hmem, ?_⟩
        rintro other (hother | ⟨_, rfl⟩)
        · exact hgreatest other hother
        · exact absurd rfl hs
      · refine ⟨.inr ⟨rfl, rfl⟩, ?_⟩
        rintro other (hother | ⟨rfl, _⟩)
        · exact hobject other hother
        · exact String.le_refl _
    · rintro ⟨hmem | ⟨rfl, rfl⟩, hgreatest⟩
      · refine .inl ⟨⟨hmem, fun other hother => hgreatest other (.inl hother)⟩, ?_⟩
        -- The last object is above all others, so it would be the greatest for its selector.
        rintro rfl
        exact String.not_le.2 (hlater _ hmem) (hgreatest object (.inr ⟨rfl, rfl⟩))
      · exact .inr ⟨rfl, rfl⟩
  claimed := by
    intro e he
    by_cases hsame : e.2 = selector
    · exact ⟨object, by simp [Lookup.record, hsame]⟩
    · have hreported : e ∈ reported := by
        rcases List.mem_append.1 he with he | he
        · exact he
        · exact absurd (by rw [List.mem_singleton.1 he]) hsame
      obtain ⟨o, ho⟩ := h.claimed e hreported
      exact ⟨o, by simp [Lookup.record, ho, hsame]⟩
  ascending := by
    rw [Lookup.record, List.pairwise_append]
    refine ⟨h.ascending.filter _, List.pairwise_singleton _ _, ?_⟩
    intro e he f hf
    rw [List.mem_singleton.1 hf]
    exact h.lt_of_mem_objects hlater (List.mem_filter.1 he).1
  count := by
    rw [h.count_record hlater, List.length_append, List.length_singleton]

end Follows

/-- Recorded in ascending order, objects keep the maps in step from any state on. -/
theorem Follows.foldl {reported rest : List (String × String)} {l : Lookup}
    (h : Follows reported l) (hascending : Ascending (reported ++ rest)) :
    Follows (reported ++ rest) (rest.foldl (fun l e => l.record e.1 e.2) l) := by
  induction rest generalizing reported l with
  | nil => simpa using h
  | cons e rest ih =>
    have hlater : ∀ f ∈ reported, f.1 < e.1 := fun f hf =>
      (List.pairwise_append.1 hascending).2.2 f hf e (by simp)
    have hstep : Follows (reported ++ [e]) (l.record e.1 e.2) := h.record hlater
    rw [List.foldl_cons]
    simpa using ih hstep (by simpa using hascending)

/-- After all objects the maps follow what was reported. -/
theorem follows_ofList {reported : List (String × String)} (h : Ascending reported) :
    Follows reported (ofList reported) :=
  Follows.empty.foldl h

example : (ofList [("a", ".x"), ("b", ".y"), ("c", ".x"), ("d", ".y")]).objects =
    [(".x", "c"), (".y", "d")] := by
  decide

namespace Follows

variable {reported : List (String × String)} {l : Lookup}

/-- Exactly the reported selectors are listed. -/
theorem mem_keys_iff (h : Follows reported l) (selector : String) :
    selector ∈ l.objects.map (·.1) ↔ selector ∈ reported.map (·.2) := by
  constructor
  · intro hkey
    obtain ⟨e, he, rfl⟩ := List.mem_map.1 hkey
    exact List.mem_map.2 ⟨_, ((h.mem_objects e.1 e.2).1 he).1, rfl⟩
  · intro hreported
    obtain ⟨e, he, rfl⟩ := List.mem_map.1 hreported
    obtain ⟨object, hobject⟩ := h.claimed e he
    exact List.mem_map.2 ⟨_, hobject, rfl⟩

/-- The selector of an object is the one that it reported. -/
theorem selectorFor_eq_some_iff (h : Follows reported l) (hascending : Ascending reported)
    {object selector : String} :
    l.selectorFor object = some selector ↔ (object, selector) ∈ reported := by
  have hkeys : (reported.map (·.1)).Nodup := by
    rw [List.Nodup, List.pairwise_map]
    exact hascending.imp String.ne_of_lt
  rw [selectorFor, h.selectors]
  exact lookup_eq_some_iff hkeys

/-- A selector leads to the object that reported it last. -/
theorem objectFor_of_greatest (h : Follows reported l) {object selector : String}
    (hmem : (object, selector) ∈ reported)
    (hgreatest : ∀ other, (other, selector) ∈ reported → other ≤ object) :
    l.objectFor selector = some object :=
  h.objectFor_eq_some_iff.2 ((h.mem_objects selector object).2 ⟨hmem, hgreatest⟩)

/-- The maps undo each other exactly if no two objects report the same selector. -/
theorem inverse_iff (h : Follows reported l) :
    (∀ object selector, (object, selector) ∈ reported ↔ l.objectFor selector = some object) ↔
      ∀ first second selector, (first, selector) ∈ reported → (second, selector) ∈ reported →
        first = second := by
  constructor
  · intro hinverse first second selector hfirst hsecond
    have hsame := (hinverse first selector).1 hfirst
    rw [(hinverse second selector).1 hsecond] at hsame
    exact (Option.some.inj hsame).symm
  · intro hdistinct object selector
    constructor
    · intro hmem
      refine h.objectFor_of_greatest hmem ?_
      intro other hother
      obtain rfl := hdistinct other object selector hother hmem
      exact String.le_refl _
    · intro hobject
      exact ((h.mem_objects selector object).1 (h.objectFor_eq_some_iff.1 hobject)).1

end Follows

end Lookup

/-! ## The maps of a sheet -/

namespace Record

/-- The objects that are compiled, with the selectors that they report: the explicit combinator, or
else the target. -/
def reported (r : Record) : List (String × String) :=
  (r.styles.names.filter fun o => !r.isIgnored o).map fun o =>
    (o, (r.combinatorFor o).getD (r.resolve o r.base).target)

/-- Objects report by ascending name. -/
theorem ascending_reported (r : Record) : Ascending r.reported := by
  rw [Ascending, reported, List.pairwise_map]
  exact (r.styles.objects.names_ascending).filter _

/-- An object reports its explicit combinator, or else its target. -/
theorem resolve_reported (r : Record) (object base : String) :
    (r.resolve object base).reported = (r.combinatorFor object).getD (r.resolve object base).target := by
  unfold resolve
  cases r.overrideFor object <;> rfl

/-- The maps of a record are made of what its objects report. -/
theorem lookup_eq (r : Record) : r.lookup = .ofList r.reported := by
  rw [lookup, reported, compiled, StyleModule.names, Dict.names, List.filter_map, List.map_map]
  simp only [resolve_reported]
  rfl

/-- The maps of a record follow what its objects report. -/
theorem follows_lookup (r : Record) : r.lookup.Follows r.reported :=
  r.lookup_eq ▸ Lookup.follows_ofList r.ascending_reported

/-- The map of selectors lists the compiled objects by ascending name, each with the selector that it
reports.  The map of objects lists every reported selector once, with the greatest object that reports
it, by ascending object.  So a selector leads back to the object that reported it last, the maps undo
each other exactly if no two objects share a selector, and what the second map lacks is reported as
collisions. -/
theorem compile_lookup (r : Record) :
    (r.compile.selectors = (r.styles.names.filter fun o => !r.isIgnored o).map fun o =>
      (o, (r.combinatorFor o).getD (r.resolve o r.base).target)) ∧
    Ascending r.compile.selectors ∧
    (r.compile.objects.map (·.1)).Nodup ∧
    (∀ selector, selector ∈ r.compile.objects.map (·.1) ↔
      selector ∈ r.compile.selectors.map (·.2)) ∧
    (∀ selector object, (selector, object) ∈ r.compile.objects ↔
      (object, selector) ∈ r.compile.selectors ∧
        ∀ other, (other, selector) ∈ r.compile.selectors → other ≤ object) ∧
    (r.compile.objects.Pairwise fun a b => a.2 < b.2) ∧
    (∀ object selector, r.compile.selectorFor object = some selector →
      (∀ other, r.compile.selectorFor other = some selector → other ≤ object) →
      r.compile.objectFor selector = some object) ∧
    ((∀ object selector, r.compile.selectorFor object = some selector ↔
        r.compile.objectFor selector = some object) ↔
      ∀ first second selector, r.compile.selectorFor first = some selector →
        r.compile.selectorFor second = some selector → first = second) ∧
    r.warnings = r.dangling.map DanglingName.message ++ r.lookup.collisions.map Collision.message ∧
    r.lookup.collisions.length + r.compile.objects.length = r.compile.selectors.length := by
  have h := r.follows_lookup
  have hascending := r.ascending_reported
  have hselectors : r.compile.selectors = r.reported := h.selectors
  have hselector (object selector : String) : r.compile.selectorFor object = some selector ↔
      (object, selector) ∈ r.reported :=
    h.selectorFor_eq_some_iff hascending
  simp only [hselector, hselectors]
  refine ⟨rfl, hascending, h.nodup_keys, h.mem_keys_iff, h.mem_objects, h.ascending, ?_,
    h.inverse_iff, rfl, h.count⟩
  intro object selector hmem hgreatest
  exact h.objectFor_of_greatest hmem hgreatest

end Record

end StyleObjects
