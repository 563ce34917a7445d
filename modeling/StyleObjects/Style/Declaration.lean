import StyleObjects.Dict
import StyleObjects.Number.Binary64

/-!
# Style values and declarations

A declaration is the body of a style object or of any rule inside it: keys with values, where a
value may be a nested declaration.  A declaration is *ordered* if its keys ascend strictly at every
depth.  Inserting keeps a declaration ordered, and sorting makes it so.

Main results:

- `Declaration.entry_induction`: induction over the entries of a declaration and of its blocks.
- `Declaration.ordered_insert`: inserting an ordered value keeps a declaration ordered.
- `Declaration.ordered_sorted`: a sorted declaration is ordered.
-/

namespace StyleObjects

mutual

/-- A value inside of a declaration. -/
inductive StyleValue where
  /-- An absent value, which is never written. -/
  | undefined
  /-- A number, which takes a unit unless its property has none. -/
  | number (x : Binary64)
  /-- A text, which is written as it stands. -/
  | text (s : String)
  /-- A nested rule, media query or keyframes block. -/
  | block (body : Declaration)

/-- The entries of a declaration, one after the other. -/
inductive Declaration where
  | nil
  | cons (key : String) (value : StyleValue) (rest : Declaration)

end

deriving instance Repr for StyleValue, Declaration
deriving instance DecidableEq for StyleValue, Declaration

instance : Inhabited StyleValue := ⟨.undefined⟩

instance : Inhabited Declaration := ⟨.nil⟩

instance : EmptyCollection Declaration := ⟨.nil⟩

/-- The nested declaration of a value that is a block. -/
def StyleValue.block? : StyleValue → Option Declaration
  | .block body => some body
  | _ => none

/-- Whether a value nests further entries. -/
def StyleValue.isBlock (v : StyleValue) : Bool :=
  v.block?.isSome

namespace Declaration

/-! ## Entries -/

/-- The entries as a list. -/
def entries : Declaration → List (String × StyleValue)
  | nil => []
  | cons key value rest => (key, value) :: rest.entries

/-- The keys, in the order of the entries. -/
def keys (d : Declaration) : List String :=
  d.entries.map (·.1)

/-- The number of entries. -/
def size (d : Declaration) : Nat :=
  d.entries.length

/-- Whether there are no entries. -/
def isEmpty (d : Declaration) : Bool :=
  d.entries.isEmpty

/-- The value of a key. -/
def get? (key : String) : Declaration → Option StyleValue
  | nil => none
  | cons k value rest => if k = key then some value else rest.get? key

/-- Sets a key among ascending ones, in place of an earlier value. -/
def insert (key : String) (value : StyleValue) : Declaration → Declaration
  | nil => cons key value nil
  | cons k v rest =>
    if key < k then cons key value (cons k v rest)
    else if key = k then cons key value rest
    else cons k v (rest.insert key value)

/-- The entries whose key passes a test, at the top level alone. -/
def filterKeys (keep : String → Bool) : Declaration → Declaration
  | nil => nil
  | cons key value rest =>
    if keep key then cons key value (rest.filterKeys keep) else rest.filterKeys keep

/-- The declaration of a list of entries, of which the last for a key counts. -/
def ofList (entries : List (String × StyleValue)) : Declaration :=
  entries.foldl (fun d e => d.insert e.1 e.2) nil

@[simp] theorem entries_nil : nil.entries = [] := rfl

@[simp] theorem entries_cons (key : String) (value : StyleValue) (rest : Declaration) :
    (cons key value rest).entries = (key, value) :: rest.entries := rfl

/-- Inserting acts on the entries as on any ascending list. -/
theorem entries_insert (key : String) (value : StyleValue) (d : Declaration) :
    (d.insert key value).entries = insertEntry key value d.entries := by
  fun_induction insert key value d with
  | case1 => rfl
  | case2 k v rest below => simp [insertEntry, below]
  | case3 v rest below => simp only [entries_cons, insertEntry, if_neg below, if_pos]
  | case4 k v rest below same ih => simp [insertEntry, below, same, ih]

/-- Induction over the entries of a declaration: an entry is a leaf or a block, and what holds of the
body of a block may be used for it. -/
@[elab_as_elim] theorem entry_induction {motive : Declaration → Prop} (nil : motive nil)
    (leaf : ∀ key value rest, value.isBlock = false → motive rest → motive (cons key value rest))
    (block : ∀ key body rest, motive body → motive rest → motive (cons key (.block body) rest)) :
    ∀ d, motive d
  | .nil => nil
  | .cons key .undefined rest => leaf key .undefined rest rfl (entry_induction nil leaf block rest)
  | .cons key (.number x) rest => leaf key (.number x) rest rfl (entry_induction nil leaf block rest)
  | .cons key (.text s) rest => leaf key (.text s) rest rfl (entry_induction nil leaf block rest)
  | .cons key (.block body) rest =>
    block key body rest (entry_induction nil leaf block body) (entry_induction nil leaf block rest)

/-- The value of a key is the one bound to it by the entries. -/
theorem get?_eq_boundValue? (key : String) (d : Declaration) :
    d.get? key = boundValue? key d.entries := by
  fun_induction get? key d with
  | case1 => rfl
  | case2 => simp [boundValue?]
  | case3 _ _ _ differs ih => simp [boundValue?, differs, ih]

end Declaration

/-! ## Order -/

mutual

/-- Whether the keys of a value ascend at every depth. -/
def StyleValue.Ordered : StyleValue → Prop
  | .block body => body.Ordered
  | .undefined => True
  | .number _ => True
  | .text _ => True

/-- Whether the keys of a declaration ascend at every depth. -/
def Declaration.Ordered : Declaration → Prop
  | .nil => True
  | .cons key value rest => (∀ k ∈ rest.keys, key < k) ∧ value.Ordered ∧ rest.Ordered

end

mutual

/-- The value with the keys of its blocks in ascending order. -/
def StyleValue.sorted : StyleValue → StyleValue
  | .block body => .block (body.sortInto .nil)
  | .undefined => .undefined
  | .number x => .number x
  | .text s => .text s

/-- Inserts the entries, with their values sorted, into a declaration. -/
def Declaration.sortInto : Declaration → Declaration → Declaration
  | .nil, done => done
  | .cons key value rest, done => rest.sortInto (done.insert key value.sorted)

end

namespace Declaration

/-- The declaration with its keys in ascending order at every depth; of entries with the same key,
the last counts. -/
def sorted (d : Declaration) : Declaration :=
  d.sortInto nil

/-- Setting a key adds no other key. -/
theorem mem_keys_insert {key k : String} {value : StyleValue} {d : Declaration}
    (h : k ∈ (d.insert key value).keys) : k = key ∨ k ∈ d.keys := by
  simp only [keys, entries_insert, List.mem_map] at h ⊢
  obtain ⟨e, he, rfl⟩ := h
  rcases mem_insertEntry he with rfl | he
  · exact .inl rfl
  · exact .inr ⟨e, he, rfl⟩

/-- Inserting an ordered value keeps a declaration ordered. -/
theorem ordered_insert {d : Declaration} (h : d.Ordered) (key : String) {value : StyleValue}
    (hv : value.Ordered) : (d.insert key value).Ordered := by
  fun_induction insert key value d with
  | case1 => simp [Ordered, hv, keys]
  | case2 k v rest below =>
    refine ⟨fun other mem => ?_, hv, h⟩
    simp only [keys, entries_cons, List.map_cons, List.mem_cons] at mem
    rcases mem with rfl | mem
    · exact below
    · exact String.lt_trans below (h.1 other (by simpa [keys] using mem))
  | case3 v rest below => exact ⟨h.1, hv, h.2.2⟩
  | case4 k v rest below same ih =>
    refine ⟨fun other mem => ?_, h.2.1, ih h.2.2⟩
    rcases mem_keys_insert mem with rfl | mem
    · rcases Std.lt_trichotomy other k with lt | eq | gt
      · exact absurd lt below
      · exact absurd eq same
      · exact gt
    · exact h.1 other mem

mutual

theorem ordered_sortedValue : ∀ v : StyleValue, v.sorted.Ordered
  | .block body => by
    simp only [StyleValue.sorted, StyleValue.Ordered]
    exact ordered_sortInto body trivial
  | .undefined => trivial
  | .number _ => trivial
  | .text _ => trivial

theorem ordered_sortInto : ∀ (d : Declaration) {done : Declaration}, done.Ordered →
    (d.sortInto done).Ordered
  | .nil, _, h => by simpa [sortInto] using h
  | .cons key value rest, _, h => by
    rw [sortInto]
    exact ordered_sortInto rest (ordered_insert h key (ordered_sortedValue value))

end

/-- A sorted declaration is ordered. -/
theorem ordered_sorted (d : Declaration) : d.sorted.Ordered :=
  ordered_sortInto d trivial

end Declaration

end StyleObjects
