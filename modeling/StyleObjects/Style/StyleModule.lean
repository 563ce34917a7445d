import StyleObjects.Style.Declaration

/-!
# Style modules

A style module is a collection of named style objects, each an ordered declaration, listed by
ascending name.

Main results:

- `StyleModule.get?_add`: adding an object changes the lookup of its name only.
-/

namespace StyleObjects

/-- Named style objects. -/
structure StyleModule where
  objects : Dict Declaration
  /-- Every object is an ordered declaration. -/
  ordered : ∀ e ∈ objects.entries, e.2.Ordered

namespace StyleModule

@[ext] theorem ext {m n : StyleModule} (h : m.objects = n.objects) : m = n := by
  cases m
  cases n
  cases h
  rfl

instance : DecidableEq StyleModule := fun m n =>
  decidable_of_iff (m.objects = n.objects) ⟨ext, fun h => h ▸ rfl⟩

/-- The module without objects. -/
def empty : StyleModule := ⟨.empty, by simp [Dict.empty]⟩

instance : Inhabited StyleModule := ⟨empty⟩

instance : EmptyCollection StyleModule := ⟨empty⟩

/-- Adds an object, in place of an earlier one of that name.  Its keys are put in order. -/
def add (m : StyleModule) (name : String) (d : Declaration) : StyleModule :=
  ⟨m.objects.insert name d.sorted, fun e he => by
    rcases mem_insertEntry he with rfl | he
    · exact d.ordered_sorted
    · exact m.ordered e he⟩

/-- The module of a list of objects, of which the last of a name counts. -/
def ofList (objects : List (String × Declaration)) : StyleModule :=
  objects.foldl (fun m o => m.add o.1 o.2) empty

/-- The declaration of an object. -/
def get? (m : StyleModule) (name : String) : Option Declaration :=
  m.objects.get? name

/-- Whether the module has an object of this name. -/
def has (m : StyleModule) (name : String) : Bool :=
  m.objects.contains name

/-- The objects with their names, by ascending name. -/
def entries (m : StyleModule) : List (String × Declaration) :=
  m.objects.entries

/-- The names of the objects, in ascending order. -/
def names (m : StyleModule) : List String :=
  m.objects.names

/-- The objects whose names pass a test. -/
def filter (keep : String → Bool) (m : StyleModule) : StyleModule :=
  ⟨m.objects.filter fun name _ => keep name, fun e he => m.ordered e (List.mem_filter.1 he).1⟩

/-- The number of objects. -/
def size (m : StyleModule) : Nat :=
  m.objects.size

/-- Whether the module has no objects. -/
def isEmpty (m : StyleModule) : Bool :=
  m.objects.isEmpty

/-- Adding an object changes the lookup of its name only. -/
@[simp] theorem get?_add (m : StyleModule) (name other : String) (d : Declaration) :
    (m.add name d).get? other = if name = other then some d.sorted else m.get? other :=
  Dict.get?_insert m.objects name other d.sorted

@[simp] theorem entries_filter (keep : String → Bool) (m : StyleModule) :
    (m.filter keep).entries = m.entries.filter fun e => keep e.1 := rfl

/-- A module has an object exactly if an entry is named so. -/
theorem has_eq_true_iff {m : StyleModule} {name : String} :
    m.has name = true ↔ ∃ e ∈ m.entries, e.1 = name := by
  simp [has, Dict.contains, entries]

/-- A filter keeps or drops an object by its name. -/
@[simp] theorem has_filter (keep : String → Bool) (m : StyleModule) (name : String) :
    (m.filter keep).has name = (keep name && m.has name) := by
  rw [Bool.eq_iff_iff, Bool.and_eq_true, has_eq_true_iff, has_eq_true_iff]
  constructor
  · rintro ⟨e, he, rfl⟩
    obtain ⟨hmem, hkeep⟩ := List.mem_filter.1 he
    exact ⟨hkeep, e, hmem, rfl⟩
  · rintro ⟨hkeep, e, he, rfl⟩
    exact ⟨e, List.mem_filter.2 ⟨he, hkeep⟩, rfl⟩

end StyleModule

end StyleObjects
