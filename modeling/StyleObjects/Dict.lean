/-!
# Dictionaries

A dictionary maps names to values and lists them by ascending name, in the order of code points.
The order is part of the type, so two dictionaries with the same bindings are equal.

Main results:

- `Dict.get?_insert`: inserting changes the value of one name only.
- `Dict.get?_filter`: a filter keeps or drops the value of a name.
-/

namespace StyleObjects

/-! ## Ascending entries -/

/-- Entries whose names ascend strictly. -/
def Ascending {α : Type} (entries : List (String × α)) : Prop :=
  entries.Pairwise fun a b => a.1 < b.1

/-- Binds a name among ascending entries, in place of an earlier binding. -/
def insertEntry {α : Type} (name : String) (value : α) :
    List (String × α) → List (String × α)
  | [] => [(name, value)]
  | entry :: rest =>
    if name < entry.1 then (name, value) :: entry :: rest
    else if name = entry.1 then (name, value) :: rest
    else entry :: insertEntry name value rest

/-- Binding a name adds no other entry. -/
theorem mem_insertEntry {α : Type} {name : String} {value : α} {entries : List (String × α)}
    {e : String × α} (h : e ∈ insertEntry name value entries) :
    e = (name, value) ∨ e ∈ entries := by
  induction entries with
  | nil => simpa [insertEntry] using h
  | cons entry rest ih =>
    unfold insertEntry at h
    split at h
    · simpa using h
    · split at h
      · rcases List.mem_cons.1 h with h | h
        · exact .inl h
        · exact .inr (List.mem_cons_of_mem _ h)
      · rcases List.mem_cons.1 h with h | h
        · exact .inr (h ▸ List.mem_cons_self)
        · exact (ih h).imp_right (List.mem_cons_of_mem _)

/-- Ascending entries stay so when a name is bound. -/
theorem Ascending.insertEntry {α : Type} {entries : List (String × α)} (h : Ascending entries)
    (name : String) (value : α) : Ascending (insertEntry name value entries) := by
  induction entries with
  | nil => simp [StyleObjects.insertEntry, Ascending]
  | cons entry rest ih =>
    unfold Ascending at h ih ⊢
    rw [List.pairwise_cons] at h
    unfold StyleObjects.insertEntry
    split
    · rename_i below
      rw [List.pairwise_cons]
      refine ⟨fun e he => ?_, List.pairwise_cons.2 h⟩
      rcases List.mem_cons.1 he with rfl | he
      · exact below
      · exact String.lt_trans below (h.1 e he)
    · split
      · rename_i same
        rw [List.pairwise_cons]
        exact ⟨fun e he => same ▸ h.1 e he, h.2⟩
      · rename_i notBelow notSame
        have above : entry.1 < name := by
          rcases Std.lt_trichotomy name entry.1 with lt | eq | gt
          · exact absurd lt notBelow
          · exact absurd eq notSame
          · exact gt
        rw [List.pairwise_cons]
        refine ⟨fun e he => ?_, ih h.2⟩
        rcases mem_insertEntry he with rfl | he
        · exact above
        · exact h.1 e he

/-- The value bound to a name. -/
def boundValue? {α : Type} (name : String) : List (String × α) → Option α
  | [] => none
  | entry :: rest => if entry.1 = name then some entry.2 else boundValue? name rest

/-- Binding a name changes the value of that name only. -/
theorem boundValue?_insertEntry {α : Type} {entries : List (String × α)} (h : Ascending entries)
    (name other : String) (value : α) :
    boundValue? other (insertEntry name value entries) =
      if name = other then some value else boundValue? other entries := by
  induction entries with
  | nil => simp [insertEntry, boundValue?]
  | cons entry rest ih =>
    have tail : Ascending rest := (List.pairwise_cons.1 h).2
    unfold insertEntry
    split
    · simp [boundValue?]
    · split
      · rename_i same
        by_cases hn : name = other <;> simp [boundValue?, ← same, hn]
      · rename_i notSame
        simp only [boundValue?, ih tail]
        by_cases he : entry.1 = other
        · have hn : name ≠ other := fun hn => notSame (hn.trans he.symm)
          simp [he, hn]
        · simp [he]

/-- A value that is found is one of the entries. -/
theorem mem_of_boundValue? {α : Type} {name : String} {value : α} {entries : List (String × α)}
    (h : boundValue? name entries = some value) : (name, value) ∈ entries := by
  induction entries with
  | nil => simp [boundValue?] at h
  | cons entry rest ih =>
    rw [boundValue?] at h
    split at h
    · rename_i hname
      obtain rfl := Option.some.inj h
      simp [← hname]
    · exact List.mem_cons_of_mem _ (ih h)

/-- A name that no entry has is not bound. -/
theorem boundValue?_eq_none {α : Type} {name : String} {entries : List (String × α)}
    (h : ∀ e ∈ entries, e.1 ≠ name) : boundValue? name entries = none := by
  induction entries with
  | nil => rfl
  | cons entry rest ih =>
    rw [List.forall_mem_cons] at h
    rw [boundValue?, if_neg h.1, ih h.2]

/-- A filter on ascending entries keeps or drops the value of a name. -/
theorem boundValue?_filter {α : Type} {entries : List (String × α)} (h : Ascending entries)
    (keep : String → α → Bool) (name : String) :
    boundValue? name (entries.filter fun e => keep e.1 e.2) =
      (boundValue? name entries).filter (keep name) := by
  induction entries with
  | nil => rfl
  | cons entry rest ih =>
    obtain ⟨above, tail⟩ := List.pairwise_cons.1 h
    have hrest := ih tail
    by_cases hname : entry.1 = name
    · subst hname
      -- A binding that is dropped has no other behind it.
      have hnone : boundValue? entry.1 rest = none :=
        boundValue?_eq_none fun e he => (String.ne_of_lt (above e he)).symm
      rw [hnone] at hrest
      by_cases hkeep : keep entry.1 entry.2 = true
      · simp [boundValue?, hkeep, Option.filter]
      · simp [boundValue?, hkeep, hrest, Option.filter]
    · by_cases hkeep : keep entry.1 entry.2 = true
      · simp [boundValue?, hname, hkeep, hrest]
      · simp [boundValue?, hname, hkeep, hrest]

/-! ## Dictionaries -/

/-- A dictionary from names to values. -/
structure Dict (α : Type) where
  entries : List (String × α)
  ascending : Ascending entries

namespace Dict

variable {α β : Type}

@[ext] theorem ext {d e : Dict α} (h : d.entries = e.entries) : d = e := by
  cases d
  cases e
  cases h
  rfl

instance [DecidableEq α] : DecidableEq (Dict α) := fun d e =>
  decidable_of_iff (d.entries = e.entries) ⟨ext, fun h => h ▸ rfl⟩

/-- The dictionary without entries. -/
def empty : Dict α := ⟨[], List.Pairwise.nil⟩

instance : Inhabited (Dict α) := ⟨empty⟩

instance : EmptyCollection (Dict α) := ⟨empty⟩

/-- Binds a name, in place of an earlier binding. -/
def insert (d : Dict α) (name : String) (value : α) : Dict α :=
  ⟨insertEntry name value d.entries, d.ascending.insertEntry name value⟩

/-- The dictionary of a list of bindings, of which the last for a name counts. -/
def ofList (bindings : List (String × α)) : Dict α :=
  bindings.foldl (fun d b => d.insert b.1 b.2) empty

/-- The value bound to a name. -/
def get? (d : Dict α) (name : String) : Option α :=
  boundValue? name d.entries

/-- Whether a name is bound. -/
def contains (d : Dict α) (name : String) : Bool :=
  d.entries.any fun e => e.1 == name

/-- The bound names, in ascending order. -/
def names (d : Dict α) : List String :=
  d.entries.map (·.1)

/-- The number of bindings. -/
def size (d : Dict α) : Nat :=
  d.entries.length

/-- Whether nothing is bound. -/
def isEmpty (d : Dict α) : Bool :=
  d.entries.isEmpty

/-- The bindings whose name and value pass a test. -/
def filter (keep : String → α → Bool) (d : Dict α) : Dict α :=
  ⟨d.entries.filter fun e => keep e.1 e.2, d.ascending.filter _⟩

/-- The dictionary with every value replaced by its image. -/
def map (f : α → β) (d : Dict α) : Dict β :=
  ⟨d.entries.map fun e => (e.1, f e.2), by
    have h := d.ascending
    unfold Ascending at h ⊢
    rw [List.pairwise_map]
    exact h⟩

/-- Inserting changes the value of one name only. -/
@[simp] theorem get?_insert (d : Dict α) (name other : String) (value : α) :
    (d.insert name value).get? other = if name = other then some value else d.get? other :=
  boundValue?_insertEntry d.ascending name other value

theorem mem_of_get? {d : Dict α} {name : String} {value : α} (h : d.get? name = some value) :
    (name, value) ∈ d.entries :=
  mem_of_boundValue? h

@[simp] theorem get?_empty (name : String) : (empty : Dict α).get? name = none := rfl

/-- A filter keeps or drops the value of a name. -/
@[simp] theorem get?_filter (keep : String → α → Bool) (d : Dict α) (name : String) :
    (d.filter keep).get? name = (d.get? name).filter (keep name) :=
  boundValue?_filter d.ascending keep name

@[simp] theorem entries_map (f : α → β) (d : Dict α) :
    (d.map f).entries = d.entries.map fun e => (e.1, f e.2) := rfl

/-- The names of a dictionary ascend. -/
theorem names_ascending (d : Dict α) : d.names.Pairwise (· < ·) := by
  unfold names
  rw [List.pairwise_map]
  exact d.ascending

theorem contains_iff_mem_names {d : Dict α} {name : String} :
    d.contains name = true ↔ name ∈ d.names := by
  simp [contains, names]

end Dict

end StyleObjects
