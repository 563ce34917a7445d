import StyleObjects.Proofs.MemberOrder

/-!
# The fields of a record

A record is read field by field into a draft.  What is read for one field depends on the value of
this field alone, so a draft is the sum of its fields: which of them are known, and what was read for
them, can be told from the members, whatever their order and the text format.

Main results:

- `Draft.readField_eq`: reading a field changes this field only, by the value alone.
- `Field.readsAlike`: a field is read alike in both formats.
- `Draft.readsAlike`: a draft is read alike.
- `Draft.field_of_ofMembers?`: what a draft knows of a field is what its member says.
- `Draft.ofMembers?_isSome_iff`: a draft can be read exactly if all its fields can.
-/

namespace StyleObjects

/-- A field is found by its own name. -/
theorem Field.key_of_ofKey? {name : String} {f : Field} (h : ofKey? name = some f) :
    f.key = name := by
  simpa using List.find?_some h

namespace Draft

/-! ## One field of a draft -/

/-- The draft with one field as in another draft. -/
def withField (r : Draft) (f : Field) (s : Draft) : Draft :=
  match f with
  | .name => { r with name := s.name }
  | .prepend => { r with prepend := s.prepend }
  | .overrides => { r with overrides := s.overrides }
  | .combinators => { r with combinators := s.combinators }
  | .ignore => { r with ignore := s.ignore }
  | .version => { r with version := s.version }
  | .map => { r with map := s.map }
  | .styles => { r with styles := s.styles }

/-- Two fields may be set in any order. -/
theorem withField_comm {f g : Field} (h : f ≠ g) (r s t : Draft) :
    (r.withField f s).withField g t = (r.withField g t).withField f s := by
  cases f <;> cases g <;> first | rfl | exact absurd rfl h

/-- Of the draft that a field is taken from, the field alone counts. -/
theorem withField_withField (f : Field) (r s t : Draft) :
    r.withField f (s.withField f t) = r.withField f t := by
  cases f <;> rfl

/-- Taking over a field leaves the others alone. -/
theorem withField_withField_of_ne {f g : Field} (h : f ≠ g) (r s t : Draft) :
    r.withField f (s.withField g t) = r.withField f s := by
  cases f <;> cases g <;> first | rfl | exact absurd rfl h

theorem withField_self (f : Field) (r : Draft) : r.withField f r = r := by
  cases f <;> rfl

/-- Taking over a field makes no other one known. -/
theorem has_withField_of_ne {f g : Field} (h : f ≠ g) (r s : Draft) :
    (r.withField f s).has g = r.has g := by
  cases f <;> cases g <;> first | rfl | exact absurd rfl h

/-- Reading a field changes this field only, by the value alone. -/
theorem readField_eq (format : Format) (r : Draft) (f : Field) (d : Data) :
    r.readField format f d = r.withField f <$> empty.readField format f d := by
  cases f <;> simp only [readField, map_bind, map_pure] <;> rfl

/-- An entry of another name is passed over, and a field is read if it is not there yet. -/
theorem toOption_readEntry (format : Format) (r : Draft) (name : String) (d : Data) :
    (readEntry format r (.text name, d)).toOption =
      match Field.ofKey? name with
      | none => some r
      | some f =>
        if r.has f then none else (empty.readField format f d).toOption.map (r.withField f) := by
  have hkey : readKey (.text name) = .ok name := rfl
  rw [readEntry, hkey]
  cases hfield : Field.ofKey? name with
  | none => simp only [toOption_bind, toOption_ok, Option.bind_some, hfield]; rfl
  | some f =>
    simp only [toOption_bind, toOption_ok, Option.bind_some, hfield]
    split
    · rfl
    · rw [readField_eq, toOption_map]

/-- Two entries with different names may change places. -/
theorem swap_readEntry (format : Format) (r : Draft) (m n : String × Json) (hname : m.1 ≠ n.1) :
    ((readEntry format r (.text m.1, m.2.toData)).toOption.bind fun r =>
        (readEntry format r (.text n.1, n.2.toData)).toOption) =
      (readEntry format r (.text n.1, n.2.toData)).toOption.bind fun r =>
        (readEntry format r (.text m.1, m.2.toData)).toOption := by
  simp only [toOption_readEntry]
  cases hm : Field.ofKey? m.1 with
  | none => simp
  | some f =>
    cases hn : Field.ofKey? n.1 with
    | none => simp
    | some g =>
      have hfields : f ≠ g := by
        rintro rfl
        exact hname ((Field.key_of_ofKey? hm).symm.trans (Field.key_of_ofKey? hn))
      dsimp only
      generalize (empty.readField format f m.2.toData).toOption = first
      generalize (empty.readField format g n.2.toData).toOption = second
      cases first <;> cases second <;> cases hf : r.has f <;> cases hg : r.has g <;>
        simp [hf, hg, has_withField_of_ne hfields, has_withField_of_ne hfields.symm,
          withField_comm hfields]

end Draft

/-! ## Both formats -/

/-- Whether the value of a field is no null that only YAML takes for a collection without entries;
the same for the objects of a module. -/
def Field.admits (f : Field) (value : Json) : Bool :=
  match f, value with
  | .overrides, value => !value.isNull
  | .combinators, value => !value.isNull
  | .ignore, value => !value.isNull
  | .styles, .object objects => objects.all fun o => !o.2.isNull
  | _, _ => true

/-- What is read alike stays so after a change of the result. -/
theorem ReadsAlike.map {α γ : Type} {read : Format → Data → Shaped α} {j : Json}
    (h : ReadsAlike read j) (g : α → γ) : ReadsAlike (fun format d => do pure (g (← read format d))) j := by
  intro format
  simp only [toOption_bind]
  rw [h format]

/-- A field is read alike in both formats. -/
theorem Field.readsAlike {f : Field} {j : Json} (hdistinct : j.hasDistinctNames = true)
    (hadmits : f.admits j = true) :
    ReadsAlike (fun format => Draft.empty.readField format f) j := by
  have htext : ReadsAlike (fun _ => readOptional readText) j :=
    readsAlike_optional fun _ => readsAlike_text j
  cases f with
  | name => exact htext.map _
  | prepend => exact htext.map _
  | overrides =>
    have hnull : j.isNull = false := by simpa [admits] using hadmits
    exact (readsAlike_dict hdistinct hnull).map _
  | combinators =>
    have hnull : j.isNull = false := by simpa [admits] using hadmits
    exact (readsAlike_dict hdistinct hnull).map _
  | ignore =>
    have hnull : j.isNull = false := by simpa [admits] using hadmits
    exact (readsAlike_texts hnull).map _
  | version => exact htext.map _
  | map => exact ReadsAlike.map (readsAlike_optional fun _ => readsAlike_bool j) _
  | styles =>
    refine ReadsAlike.map (readsAlike_optional fun hnull => ?_) _
    refine StyleModule.readsAlike hdistinct hnull ?_
    rintro objects rfl
    simpa [admits] using hadmits

namespace Draft

/-- Reading the members of a record one after the other, whether it succeeds and with which draft. -/
def ofMembers? (format : Format) (start : Draft) (members : List (String × Json)) : Option Draft :=
  members.foldlM (fun r m => (readEntry format r (.text m.1, m.2.toData)).toOption) start

/-- A record is read member by member. -/
theorem toOption_ofData (format : Format) (members : List (String × Json)) :
    (ofData format (Json.object members).toData).toOption = ofMembers? format empty members := by
  have hentries : ofData format (Json.object members).toData =
      ofEntries format (members.map fun m => (.text m.1, m.2.toData)) := by
    rw [Json.toData_object]
    cases format <;> rfl
  rw [hentries, ofEntries, toOption_foldlM, List.foldlM_map]
  rfl

/-- A draft is read alike in both formats. -/
theorem readsAlike {members : List (String × Json)}
    (hdistinct : (Json.object members).hasDistinctNames = true)
    (hadmits : ∀ m ∈ members, ∀ f, Field.ofKey? m.1 = some f → f.admits m.2 = true) :
    ReadsAlike ofData (.object members) := by
  intro format
  obtain ⟨hnames, hvalues⟩ := Json.hasDistinctNames_object.1 hdistinct
  rw [Json.loaded_object_eq, toOption_ofData, toOption_ofData, ofMembers?, ofMembers?,
    Json.foldlM_sortMembers (swap_readEntry .json) hnames]
  refine foldlM_congr ?_ empty
  intro r m hm
  rw [toOption_readEntry, toOption_readEntry]
  cases hfield : Field.ofKey? m.1 with
  | none => rfl
  | some f =>
    have hread := Field.readsAlike (hvalues m hm) (hadmits m hm f hfield) format
    exact congrArg (fun x => if r.has f then none else Option.map (r.withField f) x) hread

/-! ## What a draft knows -/

/-- The first member is read first. -/
theorem ofMembers?_cons (format : Format) (start : Draft) (name : String) (value : Json)
    (rest : List (String × Json)) :
    ofMembers? format start ((name, value) :: rest) =
      ((readEntry format start (.text name, value.toData)).toOption).bind fun r =>
        ofMembers? format r rest := rfl

/-- Reading a field succeeds if it is not there yet and its value can be read. -/
theorem toOption_readEntry_eq_some_iff {format : Format} {start r : Draft} {name : String} {f : Field}
    {d : Data} (hfield : Field.ofKey? name = some f) :
    (readEntry format start (.text name, d)).toOption = some r ↔ start.has f = false ∧
      ∃ s, empty.readField format f d = .ok s ∧ start.withField f s = r := by
  rw [toOption_readEntry, hfield]
  dsimp only
  cases hread : empty.readField format f d <;> cases start.has f <;> simp

/-- An entry with another name leaves a field as it was. -/
theorem withField_of_readEntry {format : Format} {start next : Draft} {name : String} {f : Field}
    {d : Data} (hname : f.key ≠ name)
    (h : (readEntry format start (.text name, d)).toOption = some next) (r : Draft) :
    r.withField f next = r.withField f start := by
  cases hkey : Field.ofKey? name with
  | none =>
    rw [toOption_readEntry, hkey] at h
    obtain rfl := Option.some.inj h
    rfl
  | some g =>
    obtain ⟨_, s, _, rfl⟩ := (toOption_readEntry_eq_some_iff hkey).1 h
    have hfg : f ≠ g := fun h => hname (h ▸ Field.key_of_ofKey? hkey)
    exact withField_withField_of_ne hfg r start s

/-- What a draft knows of a field is what its member says, and without a member it knows what it
knew before. -/
theorem field_of_ofMembers? {format : Format} {start r : Draft} {members : List (String × Json)}
    (hnames : members.Pairwise fun m n => m.1 ≠ n.1) (h : ofMembers? format start members = some r)
    (f : Field) :
    match members.lookup f.key with
    | none => r.withField f start = r
    | some value => ∃ s, empty.readField format f value.toData = .ok s ∧ r.withField f s = r := by
  induction members generalizing start with
  | nil =>
    obtain rfl := Option.some.inj h
    exact withField_self f start
  | cons member rest ih =>
    obtain ⟨name, value⟩ := member
    obtain ⟨hfirst, hrest⟩ := List.pairwise_cons.1 hnames
    obtain ⟨next, hentry, hnext⟩ := Option.bind_eq_some_iff.1 (ofMembers?_cons .. ▸ h)
    have hfield := ih hrest hnext
    by_cases hname : f.key = name
    · subst hname
      obtain ⟨_, s, hread, rfl⟩ := (toOption_readEntry_eq_some_iff (ofKey?_key f)).1 hentry
      have hnone : rest.lookup f.key = none := by
        rw [List.lookup_eq_none_iff]
        intro m hm
        simpa using hfirst m hm
      rw [hnone] at hfield
      rw [List.lookup_cons_self]
      exact ⟨s, hread, (withField_withField f r start s).symm.trans hfield⟩
    · have hlookup : List.lookup f.key ((name, value) :: rest) = rest.lookup f.key := by
        rw [List.lookup_cons, beq_false_of_ne hname]
      rw [hlookup]
      cases hmember : rest.lookup f.key with
      | some other => simpa [hmember] using hfield
      | none =>
        rw [hmember] at hfield
        exact (withField_of_readEntry hname hentry r).symm.trans hfield

/-- Whether every field that is there can be read. -/
def FieldsFit (format : Format) (members : List (String × Json)) : Prop :=
  ∀ m ∈ members, ∀ f, Field.ofKey? m.1 = some f → ∃ s, empty.readField format f m.2.toData = .ok s

/-- A draft can be read exactly if all fields can that are there, unless it knows one of them
already. -/
theorem ofMembers?_isSome_iff {format : Format} {start : Draft} {members : List (String × Json)}
    (hnames : members.Pairwise fun m n => m.1 ≠ n.1)
    (hstart : ∀ m ∈ members, ∀ f, Field.ofKey? m.1 = some f → start.has f = false) :
    (∃ r, ofMembers? format start members = some r) ↔ FieldsFit format members := by
  induction members generalizing start with
  | nil => simp [ofMembers?, FieldsFit]
  | cons member rest ih =>
    obtain ⟨name, value⟩ := member
    obtain ⟨hfirst, hrest⟩ := List.pairwise_cons.1 hnames
    simp only [FieldsFit, List.forall_mem_cons] at hstart ih ⊢
    rw [ofMembers?_cons]
    cases hkey : Field.ofKey? name with
    | none =>
      rw [toOption_readEntry, hkey]
      simpa using ih hrest hstart.2
    | some f =>
      have hfree (s : Draft) : ∀ m ∈ rest, ∀ g, Field.ofKey? m.1 = some g →
          (start.withField f s).has g = false := by
        intro m hm g hg
        have hfg : f ≠ g := by
          rintro rfl
          exact hfirst m hm ((Field.key_of_ofKey? hkey).symm.trans (Field.key_of_ofKey? hg))
        rw [has_withField_of_ne hfg]
        exact hstart.2 m hm g hg
      constructor
      · rintro ⟨r, hr⟩
        obtain ⟨next, hentry, hnext⟩ := Option.bind_eq_some_iff.1 hr
        obtain ⟨_, s, hs, rfl⟩ := (toOption_readEntry_eq_some_iff hkey).1 hentry
        refine ⟨?_, (ih hrest (hfree s)).1 ⟨r, hnext⟩⟩
        rintro g ⟨⟩
        exact ⟨s, hs⟩
      · rintro ⟨hf, hothers⟩
        obtain ⟨s, hs⟩ := hf f rfl
        obtain ⟨r, hr⟩ := (ih hrest (hfree s)).2 hothers
        refine ⟨r, Option.bind_eq_some_iff.2 ⟨start.withField f s, ?_, hr⟩⟩
        exact (toOption_readEntry_eq_some_iff hkey).2 ⟨hstart.1 f hkey, s, hs, rfl⟩

end Draft

end StyleObjects
