import Mathlib.Data.List.Basic
import Mathlib.Data.List.Pairwise
import StyleObjects.Proofs.RoundTrip

/-!
# The order of members

A tree read as JSON has the members of its objects in ascending order, and one read as YAML has them
in the order of the text.  If the names in every object are distinct, then a reader that adds members
one after the other comes to the same result either way, since two members with different names may
change places.  Only the report of a failure depends on the order.

Main results:

- `Json.foldlM_sortMembers`: steps that may change places do not see that members were sorted.
- `readsAlike_mapping`: a reader of mappings does not depend on the order, if no null is there.
- `StyleValue.ofData?_loaded`: a style value does not depend on the order at any depth.
- `StyleModule.readsAlike`: the same for modules, in both formats.
-/

namespace StyleObjects

/-! ## Trees with distinct names -/

namespace Json

/-- Whether a tree is a null. -/
def isNull : Json → Bool
  | .null => true
  | _ => false

mutual

/-- Whether the names in every object are distinct. -/
def hasDistinctNames : Json → Bool
  | .array items => itemsDistinct items
  | .object members => decide (members.Pairwise fun m n => m.1 ≠ n.1) && membersDistinct members
  | .null => true
  | .bool _ => true
  | .integer _ => true
  | .real _ => true
  | .text _ => true

/-- Whether the names in every object are distinct, in all items. -/
def itemsDistinct : List Json → Bool
  | [] => true
  | item :: rest => item.hasDistinctNames && itemsDistinct rest

/-- Whether the names in every object are distinct, in the values of all members. -/
def membersDistinct : List (String × Json) → Bool
  | [] => true
  | (_, value) :: rest => value.hasDistinctNames && membersDistinct rest

end

/-- Names are distinct in a list of trees if they are so in each of them. -/
theorem itemsDistinct_eq_true_iff {items : List Json} :
    itemsDistinct items = true ↔ ∀ item ∈ items, item.hasDistinctNames = true := by
  induction items with
  | nil => simp [itemsDistinct]
  | cons item rest ih => simp [itemsDistinct, ih]

/-- Names are distinct below some members if they are so in the value of each. -/
theorem membersDistinct_eq_true_iff {members : List (String × Json)} :
    membersDistinct members = true ↔ ∀ m ∈ members, m.2.hasDistinctNames = true := by
  induction members with
  | nil => simp [membersDistinct]
  | cons member rest ih => simp [membersDistinct, ih]

/-- Names are distinct in an array if they are so in its items. -/
theorem hasDistinctNames_array {items : List Json} :
    (array items).hasDistinctNames = true ↔ ∀ item ∈ items, item.hasDistinctNames = true := by
  rw [hasDistinctNames, itemsDistinct_eq_true_iff]

/-- Names are distinct in an object if its own are, and those in its values. -/
theorem hasDistinctNames_object {members : List (String × Json)} :
    (object members).hasDistinctNames = true ↔
      (members.Pairwise fun m n => m.1 ≠ n.1) ∧ ∀ m ∈ members, m.2.hasDistinctNames = true := by
  rw [hasDistinctNames, Bool.and_eq_true, decide_eq_true_iff, membersDistinct_eq_true_iff]

end Json

/-! ## Steps that may change places -/

section Folds

variable {α β : Type}

@[simp] theorem toOption_ok {ε : Type} (a : α) : (Except.ok a : Except ε α).toOption = some a := rfl

@[simp] theorem toOption_error {ε : Type} (e : ε) :
    (Except.error e : Except ε α).toOption = none := rfl

/-- What is given and no error is the result. -/
theorem toOption_eq_some_iff {ε : Type} {x : Except ε α} {a : α} :
    x.toOption = some a ↔ x = .ok a := by
  cases x <;> simp

@[simp] theorem toOption_bind {ε : Type} (x : Except ε α) (f : α → Except ε β) :
    (x >>= f).toOption = x.toOption.bind fun a => (f a).toOption := by
  cases x <;> rfl

@[simp] theorem toOption_map {ε : Type} (f : α → β) (x : Except ε α) :
    (f <$> x).toOption = x.toOption.map f := by
  cases x <;> rfl

/-- Whether a fold succeeds, and with which result, does not depend on the reports of its steps. -/
theorem toOption_foldlM {ε : Type} (f : β → α → Except ε β) (start : β) (xs : List α) :
    (xs.foldlM f start).toOption = xs.foldlM (fun b x => (f b x).toOption) start := by
  induction xs generalizing start with
  | nil => rfl
  | cons x rest ih =>
    rw [List.foldlM_cons, List.foldlM_cons, toOption_bind]
    exact congrArg _ (funext fun b => ih b)

/-- Runs of steps that agree on what is read agree. -/
theorem foldlM_congr {f g : β → α → Option β} {xs : List α} (h : ∀ b, ∀ x ∈ xs, f b x = g b x)
    (start : β) : xs.foldlM f start = xs.foldlM g start := by
  rw [List.foldlM_eq_foldl, List.foldlM_eq_foldl]
  exact List.foldl_ext _ _ _ fun b x hx => congrArg b.bind (funext fun b => h b x hx)

/-- The steps of a fold over members with distinct names may be taken in any order, if two members
with different names may change places. -/
theorem foldlM_perm {step : β → String × α → Option β}
    (hswap : ∀ b m n, m.1 ≠ n.1 → (step b m).bind (step · n) = (step b n).bind (step · m))
    {members others : List (String × α)} (hperm : members.Perm others)
    (hdistinct : members.Pairwise fun m n => m.1 ≠ n.1) (start : β) :
    members.foldlM step start = others.foldlM step start := by
  rw [List.foldlM_eq_foldl, List.foldlM_eq_foldl]
  refine hperm.foldl_eq' ?_ _
  intro m hm n hn result
  by_cases hsame : m = n
  · rw [hsame]
  · have : Std.Symm fun m n : String × α => m.1 ≠ n.1 := ⟨fun _ _ h => h.symm⟩
    have hname : m.1 ≠ n.1 := hdistinct.forall hm hn hsame
    cases result with
    | none => rfl
    | some b => exact hswap b m n hname

/-- Steps that may change places do not see that members were sorted. -/
theorem Json.foldlM_sortMembers {step : β → String × Json → Option β}
    (hswap : ∀ b m n, m.1 ≠ n.1 → (step b m).bind (step · n) = (step b n).bind (step · m))
    {members : List (String × Json)} (hdistinct : members.Pairwise fun m n => m.1 ≠ n.1)
    (start : β) :
    (sortMembers members []).foldlM step start =
      members.foldlM (fun b m => step b (m.1, m.2.sorted)) start := by
  have hperm : (sortMembers members []).Perm (members.map fun m => (m.1, m.2.sorted)) :=
    sortMembers_perm hdistinct fun e he => nomatch he
  have hnames : (members.map fun m => (m.1, m.2.sorted)).Pairwise fun m n => m.1 ≠ n.1 := by
    rw [List.pairwise_map]
    exact hdistinct
  rw [← foldlM_perm hswap hperm.symm hnames, List.foldlM_map]

/-- Two additions under different names may change places, also if what is added must be read
first. -/
theorem swap_add {γ : Type} (add : β → String → γ → β) (read : α → Option γ)
    (hadd : ∀ b x y v w, x ≠ y → add (add b x v) y w = add (add b y w) x v)
    (b : β) (m n : String × α) (hname : m.1 ≠ n.1) :
    ((read m.2).map (add b m.1)).bind (fun b => (read n.2).map (add b n.1)) =
      ((read n.2).map (add b n.1)).bind fun b => (read m.2).map (add b m.1) := by
  cases hm : read m.2 <;> cases hn : read n.2 <;> simp [hadd _ m.1 n.1 _ _ hname]

end Folds

/-- Bindings of two names may be added in either order. -/
theorem insertEntry_comm {α : Type} {x y : String} (h : x ≠ y) (v w : α)
    (entries : List (String × α)) :
    insertEntry y w (insertEntry x v entries) = insertEntry x v (insertEntry y w entries) := by
  have htotal := Std.lt_trichotomy x y
  have hxy := @String.lt_asymm x y
  have hyx := @String.lt_asymm y x
  induction entries with
  | nil => grind [insertEntry]
  | cons entry rest ih =>
    -- If the greater name goes before the entry, then so does the other one.
    have hx := @String.lt_trans x y entry.1
    have hy := @String.lt_trans y x entry.1
    grind [insertEntry]

theorem Dict.insert_comm {α : Type} (d : Dict α) (x y : String) (v w : α) (h : x ≠ y) :
    (d.insert x v).insert y w = (d.insert y w).insert x v :=
  Dict.ext (insertEntry_comm h v w d.entries)

/-- Two keys may be set in either order. -/
theorem Declaration.insert_comm (d : Declaration) (x y : String) (v w : StyleValue) (h : x ≠ y) :
    (d.insert x v).insert y w = (d.insert y w).insert x v := by
  apply eq_of_entries_eq
  simp only [entries_insert]
  exact insertEntry_comm h v w d.entries

/-- Two objects may be added in either order. -/
theorem StyleModule.add_comm (m : StyleModule) (x y : String) (d e : Declaration) (h : x ≠ y) :
    (m.add x d).add y e = (m.add y e).add x d :=
  StyleModule.ext (Dict.insert_comm m.objects x y d.sorted e.sorted h)

/-! ## Readers -/

/-- Whether a reader finds the same in a tree as it stands, in either format, and in its sorted
form. -/
def ReadsAlike {α : Type} (read : Format → Data → Shaped α) (j : Json) : Prop :=
  ∀ format, (read format j.toData).toOption = (read .json j.loaded).toOption

namespace Json

/-- The data of an array is a sequence. -/
theorem toData_array (items : List Json) : (array items).toData = .sequence (items.map toData) := by
  have hitems : itemsToData items = items.map toData := by
    induction items with
    | nil => rfl
    | cons item rest ih => rw [itemsToData, ih, List.map_cons]
  rw [toData, hitems]

/-- The data of an object is a mapping with texts as keys. -/
theorem toData_object (members : List (String × Json)) :
    (object members).toData = .mapping (members.map fun m => (.text m.1, m.2.toData)) := by
  rw [toData, membersToData_eq_map]

/-- What is loaded of an object is its data with the members in order. -/
theorem loaded_object_eq (members : List (String × Json)) :
    (object members).loaded = (object (sortMembers members [])).toData := rfl

/-- Sorting a tree does not change its shape. -/
theorem readText_loaded (j : Json) : readText j.loaded = readText j.toData := by
  cases j <;> rfl

/-- Loading does not change what is read as a truth value. -/
theorem readBool_loaded (j : Json) : readBool j.loaded = readBool j.toData := by
  cases j <;> rfl

end Json

/-- A reader of texts does not see the order of members. -/
theorem readsAlike_text (j : Json) : ReadsAlike (fun _ => readText) j := by
  intro _
  exact congrArg _ j.readText_loaded.symm

/-- Truth values are read alike. -/
theorem readsAlike_bool (j : Json) : ReadsAlike (fun _ => readBool) j := by
  intro _
  exact congrArg _ j.readBool_loaded.symm

/-- A value that may be null is read alike, if it is one or else is read alike. -/
theorem readsAlike_optional {α : Type} {read : Format → Data → Shaped α} {j : Json}
    (h : j.isNull = false → ReadsAlike read j) :
    ReadsAlike (fun format => readOptional (read format)) j := by
  intro format
  cases j with
  | null => rfl
  | bool | integer | real | text | array | object =>
    exact (toOption_map _ _).trans ((congrArg _ (h rfl format)).trans (toOption_map _ _).symm)

section Mappings

variable {α β : Type} {add : β → String → α → β}

/-- Reading entries is a fold over the members. -/
theorem toOption_readEntries (readValue : Data → Shaped α) (start : β)
    (members : List (String × Json)) :
    (readEntries add readValue start (members.map fun m => (.text m.1, m.2.toData))).toOption =
      members.foldlM (fun b m => (readValue m.2.toData).toOption.map (add b m.1)) start := by
  rw [readEntries, toOption_foldlM, List.foldlM_map]
  refine foldlM_congr ?_ start
  intro b m _
  cases hvalue : readValue m.2.toData <;> rfl

/-- A reader of mappings does not depend on the order, if no null is there. -/
theorem readsAlike_mapping {readValue : Format → Data → Shaped α} {start : β} {j : Json}
    (hadd : ∀ b x y v w, x ≠ y → add (add b x v) y w = add (add b y w) x v)
    (hdistinct : j.hasDistinctNames = true) (hnull : j.isNull = false)
    (hvalues : ∀ members, j = .object members → ∀ m ∈ members, ReadsAlike readValue m.2) :
    ReadsAlike (fun format d => do
      readEntries add (readValue format) start (← readMapping format .mapping d)) j := by
  intro format
  cases j with
  | object members =>
    obtain ⟨hnames, _⟩ := Json.hasDistinctNames_object.1 hdistinct
    have hfold : members.foldlM
        (fun b m => (readValue format m.2.toData).toOption.map (add b m.1)) start =
        (Json.sortMembers members []).foldlM
          (fun b m => (readValue .json m.2.toData).toOption.map (add b m.1)) start := by
      have hswap := swap_add add (fun j : Json => (readValue .json j.toData).toOption) hadd
      rw [Json.foldlM_sortMembers hswap hnames]
      refine foldlM_congr ?_ start
      intro b m hm
      exact congrArg _ (hvalues members rfl m hm format)
    rw [Json.loaded_object_eq, Json.toData_object, Json.toData_object]
    exact (toOption_readEntries _ _ _).trans (hfold.trans (toOption_readEntries _ _ _).symm)
  | null => simp [Json.isNull] at hnull
  | bool | integer | real | text | array => cases format <;> rfl

end Mappings

/-- A dictionary is read alike. -/
theorem readsAlike_dict {j : Json} (hdistinct : j.hasDistinctNames = true)
    (hnull : j.isNull = false) : ReadsAlike readDict j :=
  readsAlike_mapping Dict.insert_comm hdistinct hnull fun _ _ m _ => readsAlike_text m.2

/-- A list of texts is read alike. -/
theorem readsAlike_texts {j : Json} (hnull : j.isNull = false) : ReadsAlike readTexts j := by
  intro format
  cases j with
  | array items =>
    rw [Json.toData_array, Json.loaded_array]
    have hitems : (items.map Json.toData).mapM readText = (items.map Json.loaded).mapM readText := by
      rw [List.mapM_map, List.mapM_map]
      exact congrArg (items.mapM ·) (funext fun item => item.readText_loaded.symm)
    exact congrArg Except.toOption hitems
  | null => simp [Json.isNull] at hnull
  | bool | integer | real | text | object => cases format <;> rfl

/-! ## Style modules -/

/-- The members of an object are inserted one after the other, if all values are style values. -/
theorem Declaration.insertAll?_eq_foldlM (members : List (String × Json)) (done : Declaration) :
    insertAll? (members.map fun m => (.text m.1, m.2.toData)) done =
      members.foldlM (fun d m => (StyleValue.ofData? m.2.toData).map (d.insert m.1)) done := by
  induction members generalizing done with
  | nil => rfl
  | cons member rest ih =>
    rw [List.map_cons, insertAll?, List.foldlM_cons]
    cases hvalue : StyleValue.ofData? member.2.toData with
    | none => rfl
    | some value => exact ih _

mutual

/-- A style value does not depend on the order, at any depth. -/
theorem StyleValue.ofData?_loaded : ∀ j : Json, j.hasDistinctNames = true →
    ofData? j.loaded = ofData? j.toData
  | .object members, h => by
    obtain ⟨hnames, hvalues⟩ := Json.hasDistinctNames_object.1 h
    have hswap := swap_add (fun (d : Declaration) key value => d.insert key value)
      (fun j : Json => ofData? j.toData) Declaration.insert_comm
    rw [Json.loaded_object_eq, Json.toData_object, Json.toData_object, ofData?, ofData?,
      Declaration.insertAll?_eq_foldlM, Declaration.insertAll?_eq_foldlM,
      Json.foldlM_sortMembers hswap hnames]
    refine congrArg _ (foldlM_congr ?_ _)
    intro d m hm
    exact congrArg _ (memberValue_loaded members hvalues m hm)
  | .array items, _ => by rw [Json.loaded_array, Json.toData_array, ofData?, ofData?]
  | .null, _ => rfl
  | .bool _, _ => rfl
  | .integer _, _ => rfl
  | .real _, _ => rfl
  | .text _, _ => rfl

/-- Nor does it change the style values of members. -/
theorem StyleValue.memberValue_loaded : ∀ members : List (String × Json),
    (∀ m ∈ members, m.2.hasDistinctNames = true) →
      ∀ m ∈ members, ofData? m.2.loaded = ofData? m.2.toData
  | [], _, _, hm => nomatch hm
  | (name, value) :: rest, h, m, hm => by
    rcases List.mem_cons.1 hm with rfl | hm
    · exact ofData?_loaded value (h (name, value) (by simp))
    · exact memberValue_loaded rest (fun m hm => h m (by simp [hm])) m hm

end

/-- A JSON tree without tags is read as the style value that it stands for. -/
theorem toOption_readStyleValue (j : Json) :
    (readStyleValue j.toData).toOption = StyleValue.ofData? j.toData := by
  rw [readStyleValue, Json.hasTag_toData]
  cases hvalue : StyleValue.ofData? j.toData <;> rfl

/-- Style values are read alike. -/
theorem readsAlike_styleValue {j : Json} (hdistinct : j.hasDistinctNames = true) :
    ReadsAlike (fun _ => readStyleValue) j := by
  intro _
  rw [Json.loaded, toOption_readStyleValue, toOption_readStyleValue]
  exact (StyleValue.ofData?_loaded j hdistinct).symm

/-- A declaration is read alike. -/
theorem Declaration.readsAlike {j : Json} (hdistinct : j.hasDistinctNames = true)
    (hnull : j.isNull = false) : ReadsAlike Declaration.ofData j := by
  refine readsAlike_mapping Declaration.insert_comm hdistinct hnull ?_
  rintro members rfl m hm
  exact readsAlike_styleValue ((Json.hasDistinctNames_object.1 hdistinct).2 m hm)

/-- A module is read alike, if none of its objects is null. -/
theorem StyleModule.readsAlike {j : Json} (hdistinct : j.hasDistinctNames = true)
    (hnull : j.isNull = false)
    (hobjects : ∀ members, j = .object members → ∀ m ∈ members, m.2.isNull = false) :
    ReadsAlike StyleModule.ofData j := by
  refine readsAlike_mapping StyleModule.add_comm hdistinct hnull ?_
  rintro members rfl m hm
  exact Declaration.readsAlike ((Json.hasDistinctNames_object.1 hdistinct).2 m hm)
    (hobjects members rfl m hm)

end StyleObjects
