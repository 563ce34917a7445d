/-!
# Lookup maps

A sheet lists the selector of every compiled object, and the object behind every selector.  When
two objects report the same selector, the later one takes it over: its entry moves to the end, and
the collision is noted.
-/

namespace StyleObjects

/-- Two objects that report the same selector. -/
structure Collision where
  selector : String
  /-- The object that had the selector. -/
  previous : String
  /-- The object that keeps it. -/
  kept : String
deriving DecidableEq, Repr

/-- The report of a collision. -/
def Collision.message (c : Collision) : String :=
  "selector '" ++ c.selector ++ "' maps to both '" ++ c.previous ++ "' and '" ++ c.kept ++
    "'; keeping '" ++ c.kept ++ "'"

/-- The two maps between objects and selectors, in the order in which the objects were recorded. -/
structure Lookup where
  /-- Selectors by object. -/
  selectors : List (String × String)
  /-- Objects by selector. -/
  objects : List (String × String)
  /-- Collisions, in the order in which they were met. -/
  collisions : List Collision
deriving DecidableEq, Repr

namespace Lookup

/-- The maps without entries. -/
def empty : Lookup := ⟨[], [], []⟩

instance : Inhabited Lookup := ⟨empty⟩

/-- The selector of an object. -/
def selectorFor (l : Lookup) (object : String) : Option String :=
  l.selectors.lookup object

/-- The object behind a selector. -/
def objectFor (l : Lookup) (selector : String) : Option String :=
  l.objects.lookup selector

/-- Binds a name among entries in the order of their insertion: in place of an earlier binding, or
at the end. -/
def setEntry (name value : String) : List (String × String) → List (String × String)
  | [] => [(name, value)]
  | entry :: rest =>
    if entry.1 = name then (name, value) :: rest else entry :: setEntry name value rest

/-- Records that an object is reached through a selector. -/
def record (l : Lookup) (object selector : String) : Lookup where
  selectors := setEntry object selector l.selectors
  objects := l.objects.filter (·.1 != selector) ++ [(selector, object)]
  collisions :=
    l.collisions ++ (((l.objectFor selector).filter (· ≠ object)).map fun previous =>
      ⟨selector, previous, object⟩).toList

/-- Records objects with their selectors, one after the other. -/
def ofList (reported : List (String × String)) : Lookup :=
  reported.foldl (fun l entry => l.record entry.1 entry.2) empty

/-- A new name is bound at the end. -/
theorem setEntry_of_forall_ne {name value : String} {entries : List (String × String)}
    (h : ∀ e ∈ entries, e.1 ≠ name) : setEntry name value entries = entries ++ [(name, value)] := by
  induction entries with
  | nil => rfl
  | cons entry rest ih =>
    rw [List.forall_mem_cons] at h
    rw [setEntry, if_neg h.1, ih h.2]
    rfl

end Lookup

end StyleObjects
