import Mathlib.Data.List.Forall2
import StyleObjects.Proofs.RecordFields

/-!
# All loaders agree

Records are loaded from JSON, from YAML, or by trying a list first and a single record then.  Whatever
the way, the same trees are records, and they are the same records: the formats differ in the order of
members, which does not matter, and in what they take nulls for, which is excluded.  What a failure
reports may depend on the order, unless it is that the module is missing.

Main results:

- `Record.sameOutcome`: a record is read alike, down to the report of a missing module.
- `Record.ofData_eq_missingModule_iff`: when the module is missing, and how the record is named.
- `Record.listOfData_eq_error_iff`: a list fails with its first record that does.
- `RecordSet.toOption_ofAnyData`: trying both forms comes to the result of the right one.
- `RecordSet.loaders_agree`: all loaders agree.
-/

namespace StyleObjects

/-! ## Outcomes -/

/-- The record without module that an error is about, if it is about one. -/
def RecordError.label? : RecordError → Option RecordLabel
  | .shape _ => none
  | .missingModule label => some label

/-- Whether two readings end alike: with the same result, with the same missing module, or both with
a value of another shape. -/
def SameOutcome {α : Type} (x y : Except RecordError α) : Prop :=
  x.mapError RecordError.label? = y.mapError RecordError.label?

namespace SameOutcome

variable {α β : Type} {x y : Except RecordError α}

theorem refl (x : Except RecordError α) : SameOutcome x x := rfl

/-- The same is accepted, with the same result. -/
theorem toOption_eq (h : SameOutcome x y) : x.toOption = y.toOption := by
  cases x <;> cases y <;> simp_all [SameOutcome, Except.mapError]

/-- The same missing module is reported. -/
theorem missingModule_iff (h : SameOutcome x y) (label : RecordLabel) :
    x = .error (.missingModule label) ↔ y = .error (.missingModule label) := by
  cases x with
  | ok a => cases y <;> simp_all [SameOutcome, Except.mapError]
  | error e =>
    cases y with
    | ok a => simp_all [SameOutcome, Except.mapError]
    | error e' =>
      cases e <;> cases e' <;> simp_all [SameOutcome, Except.mapError, RecordError.label?]

/-- Steps that agree in what they give agree when they are run one after the other. -/
theorem bind (h : SameOutcome x y) {f g : α → Except RecordError β}
    (hfg : ∀ a, SameOutcome (f a) (g a)) : SameOutcome (x >>= f) (y >>= g) := by
  cases x with
  | ok a =>
    cases y with
    | ok b =>
      obtain rfl : a = b := Except.ok.inj h
      exact hfg a
    | error e => cases h
  | error e =>
    cases y with
    | ok b => cases h
    | error e' =>
      have he : e.label? = e'.label? := Except.error.inj h
      exact congrArg Except.error he

theorem map (h : SameOutcome x y) (f : α → β) : SameOutcome (f <$> x) (f <$> y) := by
  rw [map_eq_pure_bind, map_eq_pure_bind]
  exact h.bind fun a => refl _

end SameOutcome

/-! ## One record -/

/-- A record is read alike, down to the report of a missing module. -/
theorem Record.sameOutcome {j : Json} (h : ReadsAlike Draft.ofData j) (format : Format)
    (index : Option Nat) :
    SameOutcome (Record.ofData format index j.toData) (Record.ofData .json index j.loaded) := by
  have hdraft := h format
  refine SameOutcome.bind ?_ fun draft => .refl _
  cases hx : Draft.ofData format j.toData <;> cases hy : Draft.ofData .json j.loaded <;>
    simp_all [SameOutcome, Except.mapError, RecordError.label?]

/-- The position of a record has no influence on whether it is read. -/
theorem Record.ofData_eq_ok_iff {format : Format} {index : Option Nat} {d : Data} {r : Record} :
    Record.ofData format index d = .ok r ↔ Record.ofData format none d = .ok r := by
  have hresult : (Record.ofData format index d).toOption = (Record.ofData format none d).toOption := by
    rw [Record.ofData, Record.ofData, toOption_bind, toOption_bind]
    refine congrArg _ (funext fun draft => ?_)
    simp only [Draft.finish]
    cases draft.styles.join <;> rfl
  rw [← toOption_eq_some_iff, hresult, toOption_eq_some_iff]

/-- Whether some members give a record its module. -/
def Json.hasModule (members : List (String × Json)) : Bool :=
  match members.lookup "module" with
  | none => false
  | some value => !value.isNull

/-- How a record is named in a report: by the text of its name, or else by its position. -/
def RecordLabel.ofMembers (index : Option Nat) (members : List (String × Json)) : RecordLabel :=
  match members.lookup "name", index with
  | some (.text name), _ => .named name
  | _, some index => .position index
  | _, none => .unnamed

namespace Draft

variable {format : Format} {r : Draft} {members : List (String × Json)}

/-- The label of a record can be read off its members. -/
theorem label_of_ofMembers? (hnames : members.Pairwise fun m n => m.1 ≠ n.1)
    (h : ofMembers? format empty members = some r) (index : Option Nat) :
    r.label index = RecordLabel.ofMembers index members := by
  have hfield := field_of_ofMembers? hnames h .name
  unfold RecordLabel.ofMembers
  rw [Field.key] at hfield
  cases hmember : members.lookup "name" with
  | none =>
    rw [hmember] at hfield
    have hname : r.name = none := (congrArg Draft.name hfield).symm
    cases index <;> simp [label, hname]
  | some value =>
    rw [hmember] at hfield
    obtain ⟨s, hread, hs⟩ := hfield
    have hname : r.name = s.name := (congrArg Draft.name hs).symm
    cases value with
    | null =>
      obtain rfl := Except.ok.inj hread
      cases index <;> simp [label, hname]
    | text name =>
      obtain rfl := Except.ok.inj hread
      cases index <;> simp [label, hname]
    | bool | integer | real | array | object => cases hread

/-- A value that may be absent is so exactly if it is null. -/
theorem isSome_of_readOptional {α : Type} {read : Data → Shaped α} {j : Json} {x : Option α}
    (h : readOptional read j.toData = .ok x) : x.isSome = !j.isNull := by
  cases j with
  | null =>
    obtain rfl := Except.ok.inj h
    rfl
  | bool | integer | real | text | array | object =>
    obtain ⟨a, rfl⟩ : ∃ a, x = some a := by
      simp only [Json.toData, readOptional] at h
      generalize read _ = result at h
      cases result with
      | ok a => exact ⟨a, (Except.ok.inj h).symm⟩
      | error e => cases h
    rfl

/-- Whether a record has a module can be read off its members. -/
theorem hasModule_of_ofMembers? (hnames : members.Pairwise fun m n => m.1 ≠ n.1)
    (h : ofMembers? format empty members = some r) :
    r.styles.join.isSome = Json.hasModule members := by
  have hfield := field_of_ofMembers? hnames h .styles
  unfold Json.hasModule
  rw [Field.key] at hfield
  cases hmember : members.lookup "module" with
  | none =>
    rw [hmember] at hfield
    have hstyles : r.styles = none := (congrArg Draft.styles hfield).symm
    simp [hstyles]
  | some value =>
    rw [hmember] at hfield
    obtain ⟨s, hread, hs⟩ := hfield
    have hstyles : r.styles = s.styles := (congrArg Draft.styles hs).symm
    cases hvalue : readOptional (StyleModule.ofData format) value.toData with
    | error e => simp [readField, hvalue, bind, Except.bind] at hread
    | ok styles =>
      simp only [readField, hvalue] at hread
      obtain rfl := Except.ok.inj hread
      rw [hstyles]
      exact isSome_of_readOptional hvalue

end Draft

/-- A record is incomplete exactly if it has no module, and then its label is reported. -/
theorem Draft.finish_eq_error_iff {r : Draft} {index : Option Nat} {label : RecordLabel} :
    r.finish index = .error label ↔ r.styles.join.isSome = false ∧ label = r.label index := by
  unfold finish
  cases r.styles.join <;> simp [throw, throwThe, MonadExceptOf.throw, pure, Except.pure, eq_comm]

/-- The module of a record is missing exactly if all its fields can be read and none of them gives
one. -/
theorem Record.ofData_eq_missingModule_iff {format : Format} {index : Option Nat}
    {members : List (String × Json)} (hnames : members.Pairwise fun m n => m.1 ≠ n.1)
    {label : RecordLabel} :
    Record.ofData format index (Json.object members).toData = .error (.missingModule label) ↔
      Draft.FieldsFit format members ∧ Json.hasModule members = false ∧
        label = .ofMembers index members := by
  have hdraft := Draft.toOption_ofData format members
  have hfit : (∃ r, Draft.ofMembers? format .empty members = some r) ↔
      Draft.FieldsFit format members :=
    Draft.ofMembers?_isSome_iff hnames fun _ _ f _ => by cases f <;> rfl
  rw [← hfit, ← hdraft, Record.ofData]
  cases hread : Draft.ofData format (Json.object members).toData with
  | error e => simp [Except.mapError, bind, Except.bind]
  | ok r =>
    rw [hread] at hdraft
    have hrun : ((Except.ok r).mapError RecordError.shape >>= fun draft =>
        (draft.finish index).mapError .missingModule) = .error (.missingModule label) ↔
          r.finish index = .error label := by
      cases hfinish : r.finish index <;> simp [Except.mapError, bind, Except.bind, hfinish]
    rw [hrun, Draft.finish_eq_error_iff, Draft.label_of_ofMembers? hnames hdraft.symm,
      Draft.hasModule_of_ofMembers? hnames hdraft.symm]
    simp

/-! ## Lists of records -/

/-- A list is read if all its records are, each on its own. -/
theorem Record.listOfData_eq_ok_iff {format : Format} {start : Nat} {items : List Data}
    {records : List Record} : Record.listOfData format start items = .ok records ↔
      List.Forall₂ (fun d r => Record.ofData format none d = .ok r) items records := by
  induction items generalizing start records with
  | nil =>
    rw [List.forall₂_nil_left_iff, listOfData]
    exact ⟨fun h => (Except.ok.inj h).symm, fun h => h ▸ rfl⟩
  | cons d rest ih =>
    rw [List.forall₂_cons_left_iff, listOfData, ← toOption_eq_some_iff, toOption_bind,
      Option.bind_eq_some_iff]
    simp only [toOption_bind, Option.bind_eq_some_iff, toOption_eq_some_iff, Record.ofData_eq_ok_iff,
      ih]
    constructor
    · rintro ⟨r, hr, others, hothers, ⟨⟩⟩
      exact ⟨r, others, hr, hothers, rfl⟩
    · rintro ⟨r, others, hr, hothers, rfl⟩
      exact ⟨r, hr, others, hothers, rfl⟩

/-- A list fails with its first record that does. -/
theorem Record.listOfData_eq_error_iff {format : Format} {start : Nat} {items : List Data}
    {e : RecordError} : Record.listOfData format start items = .error e ↔
      ∃ i d, items[i]? = some d ∧ (∀ x ∈ items.take i, ∃ r, Record.ofData format none x = .ok r) ∧
        Record.ofData format (some (start + i)) d = .error e := by
  induction items generalizing start with
  | nil => simp [listOfData, pure, Except.pure]
  | cons d rest ih =>
    cases hfirst : Record.ofData format (some start) d with
    | error e' =>
      have hlist : Record.listOfData format start (d :: rest) = .error e' := by
        rw [listOfData, hfirst]
        rfl
      rw [hlist]
      constructor
      · rintro ⟨⟩
        exact ⟨0, d, rfl, by simp, hfirst⟩
      · rintro ⟨i, x, hx, hbefore, he⟩
        cases i with
        | zero =>
          obtain rfl := Option.some.inj hx
          exact congrArg Except.error (Except.error.inj (hfirst.symm.trans he))
        | succ i =>
          obtain ⟨r, hr⟩ := hbefore d (by simp)
          have hok : Record.ofData format (some start) d = .ok r := Record.ofData_eq_ok_iff.2 hr
          cases hfirst.symm.trans hok
    | ok r =>
      have hlist : Record.listOfData format start (d :: rest) = .error e ↔
          Record.listOfData format (start + 1) rest = .error e := by
        rw [listOfData, hfirst]
        cases Record.listOfData format (start + 1) rest <;> simp [bind, Except.bind, pure, Except.pure]
      have hd := Record.ofData_eq_ok_iff.1 hfirst
      rw [hlist, ih]
      constructor
      · rintro ⟨i, x, hx, hbefore, he⟩
        refine ⟨i + 1, x, hx, ?_, ?_⟩
        · rw [List.take_succ_cons, List.forall_mem_cons]
          exact ⟨⟨r, hd⟩, hbefore⟩
        · rw [← he, Nat.add_right_comm, Nat.add_assoc]
      · rintro ⟨i, x, hx, hbefore, he⟩
        cases i with
        | zero =>
          obtain rfl := Option.some.inj hx
          cases hfirst.symm.trans he
        | succ i =>
          rw [List.take_succ_cons, List.forall_mem_cons] at hbefore
          refine ⟨i, x, hx, hbefore.2, ?_⟩
          rw [← he, Nat.add_right_comm, Nat.add_assoc]

/-- Records that are read alike are read alike in a list. -/
theorem Record.listOfData_sameOutcome {items : List Json}
    (h : ∀ item ∈ items, ReadsAlike Draft.ofData item) (format : Format) (start : Nat) :
    SameOutcome (Record.listOfData format start (items.map Json.toData))
      (Record.listOfData .json start (items.map Json.loaded)) := by
  induction items generalizing start with
  | nil => exact .refl _
  | cons item rest ih =>
    rw [List.forall_mem_cons] at h
    rw [List.map_cons, List.map_cons, listOfData, listOfData]
    refine (Record.sameOutcome h.1 format (some start)).bind fun r => ?_
    exact (ih h.2 (start + 1)).bind fun records => .refl _

/-! ## Trees of records -/

/-- The data that a tree is read as, once its text is parsed. -/
def Format.dataOf (format : Format) (j : Json) : Data :=
  match format with
  | .json => j.loaded
  | .yaml => j.toData

/-- The data of an array is the sequence of the data of its items. -/
theorem Format.dataOf_array (format : Format) (items : List Json) :
    format.dataOf (.array items) = .sequence (items.map format.dataOf) := by
  cases format with
  | json => exact Json.loaded_array items
  | yaml => exact Json.toData_array items

namespace Json

/-- The trees of which each is read as a record: the items of a list, or else the tree itself. -/
def records : Json → List Json
  | .array items => items
  | j => [j]

/-- Whether a tree is a map, none of whose fields is a null that stands for a collection. -/
def isRecord : Json → Bool
  | .object members => members.all fun m => (Field.ofKey? m.1).all fun f => f.admits m.2
  | _ => false

/-- A tree that can be a record is an object. -/
theorem exists_of_isRecord {j : Json} (h : j.isRecord = true) : ∃ members, j = .object members := by
  cases j with
  | object members => exact ⟨members, rfl⟩
  | null | bool | integer | real | text | array => cases h

/-- A record is loaded as a mapping. -/
theorem exists_mapping_of_isRecord {j : Json} (h : j.isRecord = true) (format : Format) :
    ∃ entries, format.dataOf j = .mapping entries := by
  obtain ⟨members, rfl⟩ := exists_of_isRecord h
  cases format with
  | json => exact ⟨_, rfl⟩
  | yaml => exact ⟨_, rfl⟩

/-- Records are read alike in both formats and in any order of their members. -/
theorem readsAlike_record {j : Json} (hdistinct : j.hasDistinctNames = true)
    (hrecord : j.isRecord = true) : ReadsAlike Draft.ofData j := by
  obtain ⟨members, rfl⟩ := exists_of_isRecord hrecord
  refine Draft.readsAlike hdistinct ?_
  intro m hm f hf
  have hm := List.all_eq_true.1 hrecord m hm
  rwa [hf] at hm

end Json

namespace RecordSet

/-- A tree of records is read alike in both formats. -/
theorem sameOutcome {j : Json} (hdistinct : j.hasDistinctNames = true)
    (hrecords : ∀ record ∈ j.records, record.isRecord = true) (format : Format) :
    SameOutcome (RecordSet.ofData format j.toData) (RecordSet.ofData .json j.loaded) := by
  cases j with
  | array items =>
    rw [Json.toData_array, Json.loaded_array, ofData, ofData]
    refine SameOutcome.map (Record.listOfData_sameOutcome ?_ format 0) many
    intro item hitem
    exact Json.readsAlike_record (Json.hasDistinctNames_array.1 hdistinct item hitem)
      (hrecords item hitem)
  | object members =>
    have hrecord := Json.readsAlike_record hdistinct (hrecords (.object members) (by simp [Json.records]))
    exact SameOutcome.map (Record.sameOutcome hrecord format none) one
  | null | bool | integer | real | text =>
    exact absurd (hrecords _ (List.mem_singleton_self _)) (by simp [Json.isRecord])

/-- Trying both forms comes to the result of the right one: a map is no list, and no list of maps is
a record in list form. -/
theorem toOption_ofAnyData {d : Data} (h : (∃ entries, d = .mapping entries) ∨
    ∃ items, d = .sequence items ∧ ∀ x ∈ items, ∃ entries, x = .mapping entries) :
    (ofAnyData d).toOption = (ofData .json d).toOption := by
  rcases h with ⟨entries, rfl⟩ | ⟨items, rfl, hitems⟩
  · simp only [ofAnyData, ofData, toOption_map, Option.none_or]
    cases Record.ofData .json none (.mapping entries) <;> rfl
  · have hsingle : items ≠ [] →
        (Record.ofData .json none (.sequence items)).toOption = none := by
      intro hne
      obtain ⟨x, rest, rfl⟩ := List.exists_cons_of_ne_nil hne
      obtain ⟨entries, rfl⟩ := hitems x (by simp)
      rfl
    rw [ofAnyData, ofData, toOption_map]
    cases hlist : Record.listOfData .json 0 items with
    | ok records => rfl
    | error e =>
      have hne : items ≠ [] := by
        rintro rfl
        cases hlist
      rw [hsingle hne]
      rfl

/-- A list is read exactly as its records, each on its own, in their order. -/
theorem ofData_array_eq_ok_iff {format : Format} {items : List Json} {set : RecordSet} :
    ofData format (format.dataOf (.array items)) = .ok set ↔ ∃ records, set = many records ∧
      List.Forall₂ (fun item r => Record.ofData format none (format.dataOf item) = .ok r)
        items records := by
  rw [Format.dataOf_array, ofData, ← toOption_eq_some_iff, toOption_map, Option.map_eq_some_iff]
  simp only [toOption_eq_some_iff, Record.listOfData_eq_ok_iff, List.forall₂_map_left_iff]
  exact exists_congr fun records => and_comm.trans (and_congr_left' eq_comm)

/-- A list is reported with its first record that cannot be read. -/
theorem ofData_array_eq_error_iff {format : Format} {items : List Json} {e : RecordError} :
    ofData format (format.dataOf (.array items)) = .error e ↔ ∃ i item, items[i]? = some item ∧
      (∀ earlier ∈ items.take i, ∃ r, Record.ofData format none (format.dataOf earlier) = .ok r) ∧
      Record.ofData format (some i) (format.dataOf item) = .error e := by
  have hmap : many <$> Record.listOfData format 0 (items.map format.dataOf) = .error e ↔
      Record.listOfData format 0 (items.map format.dataOf) = .error e := by
    cases Record.listOfData format 0 (items.map format.dataOf) <;> simp [Functor.map, Except.map]
  rw [Format.dataOf_array, ofData, hmap, Record.listOfData_eq_error_iff]
  simp only [List.getElem?_map, Option.map_eq_some_iff, ← List.map_take, List.forall_mem_map,
    Nat.zero_add]
  constructor
  · rintro ⟨i, d, ⟨item, hitem, rfl⟩, hbefore, he⟩
    exact ⟨i, item, hitem, hbefore, he⟩
  · rintro ⟨i, item, hitem, hbefore, he⟩
    exact ⟨i, _, ⟨item, hitem, rfl⟩, hbefore, he⟩

variable {j : Json}

/-- Trying both forms comes to what the loader of either format finds. -/
theorem toOption_ofAnyData_dataOf (hdistinct : j.hasDistinctNames = true)
    (hrecords : ∀ record ∈ j.records, record.isRecord = true) (format : Format) :
    (ofAnyData (format.dataOf j)).toOption = (ofData .json (Format.json.dataOf j)).toOption := by
  have hform : (ofAnyData (format.dataOf j)).toOption =
      (ofData .json (format.dataOf j)).toOption := by
    refine toOption_ofAnyData ?_
    cases j with
    | array items =>
      rw [Format.dataOf_array]
      refine .inr ⟨_, rfl, ?_⟩
      rw [List.forall_mem_map]
      exact fun item hitem => Json.exists_mapping_of_isRecord (hrecords item hitem) format
    | null | bool | integer | real | text | object =>
      exact .inl (Json.exists_mapping_of_isRecord (hrecords _ (List.mem_singleton_self _)) format)
  rw [hform]
  cases format with
  | json => rfl
  | yaml => exact (sameOutcome hdistinct hrecords .json).toOption_eq

/-- Where all names in a tree are distinct, they are so in each of its records. -/
theorem hasDistinctNames_of_mem_records (hdistinct : j.hasDistinctNames = true) {record : Json}
    (h : record ∈ j.records) : record.hasDistinctNames = true := by
  cases j with
  | array items => exact Json.hasDistinctNames_array.1 hdistinct record h
  | null | bool | integer | real | text | object =>
    obtain rfl := List.mem_singleton.1 h
    exact hdistinct

/-- All loaders agree.  Take any tree that is a map or a list of maps, in which no map has two entries
of one name and no null stands for a collection.  Read as JSON, read as YAML, and by trying both
forms, it is accepted with the same records or not at all: a map as one record, a list as its records
in order.  A list is reported with its first record that cannot be read, and a record whose fields
can be read but that has no module is reported in the same way in both formats, by its name or else
by its position.  What a text loader returns is this, for the tree that the text stands for. -/
theorem loaders_agree (hdistinct : j.hasDistinctNames = true)
    (hrecords : ∀ record ∈ j.records, record.isRecord = true) :
    (∀ format, SameOutcome (ofData format (format.dataOf j)) (ofData .json (Format.json.dataOf j)) ∧
      (ofAnyData (format.dataOf j)).toOption = (ofData .json (Format.json.dataOf j)).toOption) ∧
    (∀ format members, j = .object members →
      ofData format (format.dataOf j) = one <$> Record.ofData format none (format.dataOf j)) ∧
    (∀ format items, j = .array items →
      (∀ set, ofData format (format.dataOf j) = .ok set ↔ ∃ records, set = many records ∧
        List.Forall₂ (fun item r => Record.ofData format none (format.dataOf item) = .ok r)
          items records) ∧
      ∀ e, ofData format (format.dataOf j) = .error e ↔ ∃ i item, items[i]? = some item ∧
        (∀ earlier ∈ items.take i, ∃ r, Record.ofData format none (format.dataOf earlier) = .ok r) ∧
        Record.ofData format (some i) (format.dataOf item) = .error e) ∧
    (∀ members, .object members ∈ j.records → ∀ format index,
      SameOutcome (Record.ofData format index (format.dataOf (.object members)))
        (Record.ofData .json index (Format.json.dataOf (.object members))) ∧
      ∀ label, Record.ofData format index (format.dataOf (.object members)) =
          .error (.missingModule label) ↔
        Draft.FieldsFit format members ∧ Json.hasModule members = false ∧
          label = .ofMembers index members) ∧
    ∀ format text, format.parse text = .ok (format.dataOf j) →
      RecordSet.parse format text = (ofData format (format.dataOf j)).mapError (·.inText format) := by
  refine ⟨?_, ?_, ?_, ?_, ?_⟩
  · intro format
    refine ⟨?_, toOption_ofAnyData_dataOf hdistinct hrecords format⟩
    cases format with
    | json => exact .refl _
    | yaml => exact sameOutcome hdistinct hrecords .yaml
  · rintro format members rfl
    cases format <;> rfl
  · rintro format items rfl
    exact ⟨fun _ => ofData_array_eq_ok_iff, fun _ => ofData_array_eq_error_iff⟩
  · intro members hmem format index
    have hrecord := hasDistinctNames_of_mem_records hdistinct hmem
    have hnames := (Json.hasDistinctNames_object.1 hrecord).1
    have hsame (format : Format) :=
      Record.sameOutcome (Json.readsAlike_record hrecord (hrecords _ hmem)) format index
    cases format with
    | json =>
      refine ⟨.refl _, fun label => ?_⟩
      exact ((hsame .json).missingModule_iff label).symm.trans
        (Record.ofData_eq_missingModule_iff hnames)
    | yaml => exact ⟨hsame .yaml, fun label => Record.ofData_eq_missingModule_iff hnames⟩
  · intro format text hparse
    rw [RecordSet.parse, hparse]
    rfl

/-- A tree with its fields and objects out of order, a field that is passed over and an absent
value. -/
def cardTree : Json :=
  .object [("version", .text "2"),
    ("module", .object [("tab", .object [("top", .integer 1), ("left", .text "0")]),
      ("card", .object [("color", .null)])]),
    ("title", .null), ("name", .text "cards")]

/-- A list with a record that has neither module nor name. -/
def unnamedTree : Json :=
  .array [cardTree, .object [("overrides", .object [("tab", .text ".tab")]), ("map", .bool true)]]

/-- The record of `cardTree`. -/
def cardRecord : Record :=
  { Record.ofModule (.ofList [
      ("card", .cons "color" .undefined .nil),
      ("tab", .cons "left" (.text "0") (.cons "top" (.number (.ofInt 1)) .nil))]) with
    name := some "cards"
    version := some "2" }

theorem loaders_agree_sample :
    (cardTree.hasDistinctNames = true ∧ (∀ record ∈ cardTree.records, record.isRecord = true) ∧
      (∀ format, ofData format (format.dataOf cardTree) = .ok (one cardRecord)) ∧
      ∀ format : Format, (ofAnyData (format.dataOf cardTree)).toOption = some (one cardRecord)) ∧
    unnamedTree.hasDistinctNames = true ∧
      (∀ record ∈ unnamedTree.records, record.isRecord = true) ∧
      (∀ format, ofData format (format.dataOf unnamedTree) =
        .error (.missingModule (.position 1))) ∧
      ∀ format : Format, (ofAnyData (format.dataOf unnamedTree)).toOption = none := by
  have hdistinct : cardTree.hasDistinctNames = true := by decide +kernel
  have hrecords : ∀ record ∈ cardTree.records, record.isRecord = true := by decide +kernel
  have hdistinct' : unnamedTree.hasDistinctNames = true := by decide +kernel
  have hrecords' : ∀ record ∈ unnamedTree.records, record.isRecord = true := by decide +kernel
  have hcard : (ofData .json (Format.json.dataOf cardTree)).toOption = some (one cardRecord) := by
    decide +kernel
  have hunnamed : ofData .json (Format.json.dataOf unnamedTree) =
      .error (.missingModule (.position 1)) := by
    with_unfolding_all rfl
  have hways := (loaders_agree hdistinct hrecords).1
  have hways' := (loaders_agree hdistinct' hrecords').1
  refine ⟨⟨hdistinct, hrecords, fun format => ?_, fun format => ?_⟩, hdistinct', hrecords',
    fun format => ?_, fun format => ?_⟩
  · rw [← toOption_eq_some_iff, (hways format).1.toOption_eq, hcard]
  · rw [(hways format).2, hcard]
  · exact ((hways' format).1.missingModule_iff _).2 hunnamed
  · rw [(hways' format).2, hunnamed]
    rfl

end RecordSet

end StyleObjects
