import StyleObjects.Dict
import StyleObjects.Number.Binary64

/-!
# JSON trees

A JSON tree keeps the members of an object in the order of the text, repeated names included.  Its
sorted form lists every name once, in ascending order, with the member that came last.

Main results:

- `Json.ascending_sortMembers`: the members of a sorted object ascend.
-/

namespace StyleObjects

/-- A JSON tree. -/
inductive Json where
  | null
  | bool (b : Bool)
  /-- A number without fraction and exponent that fits 64 bits. -/
  | integer (n : Int)
  | real (x : Binary64)
  | text (s : String)
  | array (items : List Json)
  | object (members : List (String × Json))
deriving Repr, Inhabited

namespace Json

mutual

/-- The tree with the members of all objects in ascending order of their names. -/
def sorted : Json → Json
  | .array items => .array (sortItems items)
  | .object members => .object (sortMembers members [])
  | .null => .null
  | .bool b => .bool b
  | .integer n => .integer n
  | .real x => .real x
  | .text s => .text s

/-- The items of a list, each sorted. -/
def sortItems : List Json → List Json
  | [] => []
  | item :: rest => item.sorted :: sortItems rest

/-- Inserts sorted members among the `done` ones. -/
def sortMembers : List (String × Json) → List (String × Json) → List (String × Json)
  | [], done => done
  | (name, value) :: rest, done => sortMembers rest (insertEntry name value.sorted done)

end

/-- The members of a sorted object ascend. -/
theorem ascending_sortMembers (members : List (String × Json)) {done : List (String × Json)}
    (h : Ascending done) : Ascending (sortMembers members done) := by
  induction members generalizing done with
  | nil => simpa [sortMembers] using h
  | cons member rest ih =>
    obtain ⟨name, value⟩ := member
    rw [sortMembers]
    exact ih (h.insertEntry _ _)

end Json

end StyleObjects
