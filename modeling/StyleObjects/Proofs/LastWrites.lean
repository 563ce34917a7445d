import StyleObjects.Proofs.SavedValues

/-!
# Declarations as they are built

A declaration is built key by key or from a list of entries, and so are the blocks inside it.  A later
write of a key takes the place of an earlier one, and the keys are listed in ascending order in any
case.  So all that counts of a build is what is written last at each path.

Main results:

- `read_foldl`: after a run of steps, the last write decides.
- `Ascending.ext`: ascending entries are determined by the values of the names.
- `BodyDraft.build_ordered`: what is built is ordered at every depth.
- `ValueDraft.build_eq_iff`: two builds agree exactly when the same is written last at each path.
-/

namespace StyleObjects

/-! ## Last writes -/

/-- The value that is written last for a key. -/
def lastWrite {α : Type} (key : String) (writes : List (String × α)) : Option α :=
  (writes.filterMap fun w => if w.1 = key then some w.2 else none).getLast?

/-- If each step either writes what is read or leaves it alone, the last write is read after a run
of steps, and what was there before if there is none. -/
theorem read_foldl {σ ι α : Type} (apply : σ → ι → σ) (read : σ → Option α) (write? : ι → Option α)
    (hstep : ∀ s i, read (apply s i) = (write? i).or (read s)) (s : σ) (steps : List ι) :
    read (steps.foldl apply s) = (steps.filterMap write?).getLast?.or (read s) := by
  induction steps generalizing s with
  | nil => rfl
  | cons i steps ih =>
    rw [List.foldl_cons, ih, hstep]
    cases hwrite : write? i with
    | none => rw [List.filterMap_cons_none hwrite, Option.none_or]
    | some a =>
      rw [List.filterMap_cons_some hwrite, List.getLast?_cons]
      cases (steps.filterMap write?).getLast? <;> rfl

/-- The last write of changed values is the last value changed. -/
theorem lastWrite_map {α β : Type} (f : α → β) (key : String) (writes : List (String × α)) :
    lastWrite key (writes.map fun w => (w.1, f w.2)) = (lastWrite key writes).map f := by
  rw [lastWrite, lastWrite, List.filterMap_map, ← List.getLast?_map, List.map_filterMap]
  congr 2
  funext w
  by_cases hkey : w.1 = key <;> simp [hkey]

/-- A key has a last write if it is written. -/
theorem isSome_lastWrite_iff {α : Type} {key : String} {writes : List (String × α)} :
    (lastWrite key writes).isSome = true ↔ ∃ value, (key, value) ∈ writes := by
  rw [lastWrite, List.getLast?_isSome, ne_eq, List.filterMap_eq_nil_iff]
  constructor
  · intro h
    refine Classical.byContradiction fun hnone => h fun w hw => if_neg ?_
    rintro rfl
    exact hnone ⟨w.2, hw⟩
  · rintro ⟨value, hvalue⟩ hnone
    have hskipped := hnone (key, value) hvalue
    rw [if_pos rfl] at hskipped
    cases hskipped

/-! ## Ascending entries -/

/-- Ascending entries hold nothing twice. -/
theorem Ascending.nodup {α : Type} {entries : List (String × α)} (h : Ascending entries) :
    entries.Nodup :=
  List.Pairwise.imp (fun hlt heq => String.ne_of_lt hlt (congrArg Prod.fst heq)) h

/-- Ascending entries bind each name at most once. -/
theorem Ascending.mem_iff {α : Type} {entries : List (String × α)} (h : Ascending entries)
    {name : String} {value : α} :
    (name, value) ∈ entries ↔ boundValue? name entries = some value := by
  refine ⟨fun hmem => ?_, mem_of_boundValue?⟩
  induction entries with
  | nil => cases hmem
  | cons entry rest ih =>
    obtain ⟨habove, hrest⟩ := List.pairwise_cons.1 h
    rw [boundValue?]
    rcases List.mem_cons.1 hmem with rfl | hmem
    · rw [if_pos rfl]
    · rw [if_neg (String.ne_of_lt (habove (name, value) hmem)), ih hrest hmem]

/-- Ascending entries are determined by the values of the names. -/
theorem Ascending.ext {α : Type} {entries entries' : List (String × α)} (h : Ascending entries)
    (h' : Ascending entries') (hvalue : ∀ name, boundValue? name entries = boundValue? name entries') :
    entries = entries' := by
  have hmem : ∀ e, e ∈ entries ↔ e ∈ entries' := by
    rintro ⟨name, value⟩
    rw [h.mem_iff, h'.mem_iff, hvalue]
  refine List.Perm.eq_of_pairwise (fun a b _ _ hab hba => ?_) h h'
    ((List.perm_ext_iff_of_nodup h.nodup h'.nodup).2 hmem)
  exact absurd hba (String.lt_asymm hab)

namespace Dict

variable {α : Type} {d e : Dict α}

/-- Dictionaries with the same values are equal. -/
theorem ext_get? (h : ∀ name, d.get? name = e.get? name) : d = e :=
  ext (d.ascending.ext e.ascending h)

/-- The names of a dictionary are those with a value. -/
theorem mem_names_iff {name : String} : name ∈ d.names ↔ (d.get? name).isSome = true := by
  rw [Option.isSome_iff_exists, names, List.mem_map]
  constructor
  · rintro ⟨⟨_, value⟩, hmem, rfl⟩
    exact ⟨value, d.ascending.mem_iff.1 hmem⟩
  · rintro ⟨value, hvalue⟩
    exact ⟨(name, value), mem_of_get? hvalue, rfl⟩

end Dict

namespace Declaration

/-- Inserting changes the value of one key only. -/
theorem get?_insert (d : Declaration) (key other : String) (value : StyleValue) :
    (d.insert key value).get? other = if key = other then some value else d.get? other := by
  fun_induction insert key value d with
  | case1 => rfl
  | case2 k v rest below => rfl
  | case3 v rest below =>
    by_cases hkey : key = other <;> simp [get?, hkey]
  | case4 k v rest below differs ih =>
    by_cases hkey : k = other
    · have hother : key ≠ other := fun h => differs (h.trans hkey.symm)
      simp [get?, hkey, hother]
    · simp [get?, hkey, ih]

/-- Of the entries of a list, the last for a key counts. -/
theorem get?_ofList (entries : List (String × StyleValue)) (key : String) :
    (ofList entries).get? key = lastWrite key entries := by
  rw [ofList, read_foldl _ (get? key) (fun w => if w.1 = key then some w.2 else none)]
  · exact Option.or_none
  · intro d w
    rw [get?_insert]
    by_cases hkey : w.1 = key <;> simp [hkey]

/-- A list of ordered values gives an ordered declaration. -/
theorem ordered_ofList {entries : List (String × StyleValue)} (h : ∀ e ∈ entries, e.2.Ordered) :
    (ofList entries).Ordered := by
  have hrun : ∀ d : Declaration, d.Ordered →
      (entries.foldl (fun d e => d.insert e.1 e.2) d).Ordered := by
    induction entries with
    | nil => exact fun d hd => hd
    | cons e entries ih =>
      rw [List.forall_mem_cons] at h
      exact fun d hd => ih h.2 _ (ordered_insert hd e.1 h.1)
  exact hrun nil trivial

/-- The values of an ordered declaration are ordered. -/
theorem Ordered.value {d : Declaration} (h : d.Ordered) : ∀ e ∈ d.entries, e.2.Ordered := by
  fun_induction entries d with
  | case1 => simp
  | case2 key value rest ih => exact List.forall_mem_cons.2 ⟨h.2.1, ih h.2.2⟩

end Declaration

/-- Of the objects of a list, the last of a name counts. -/
theorem StyleModule.get?_ofList (objects : List (String × Declaration)) (name : String) :
    (ofList objects).get? name = (lastWrite name objects).map Declaration.sorted := by
  rw [ofList, ← lastWrite_map, lastWrite, List.filterMap_map,
    read_foldl _ (get? · name) (fun o => if o.1 = name then some o.2.sorted else none)]
  · exact Option.or_none
  · intro m o
    rw [get?_add]
    by_cases hname : o.1 = name <;> simp [hname]

/-! ## Drafts -/

/-- A value that is no block. -/
inductive PlainValue where
  | undefined
  | number (x : Binary64)
  | text (s : String)
deriving DecidableEq

mutual

/-- How a value is built. -/
inductive ValueDraft where
  | plain (value : PlainValue)
  | block (body : BodyDraft)

/-- How a declaration is built: from nothing, by setting one key more, or from a list of entries. -/
inductive BodyDraft where
  | empty
  | set (before : BodyDraft) (key : String) (value : ValueDraft)
  | collect (entries : EntryDrafts)

/-- The entries that a declaration is built from, one after the other. -/
inductive EntryDrafts where
  | nil
  | cons (key : String) (value : ValueDraft) (rest : EntryDrafts)

end

/-- The value itself. -/
def PlainValue.toValue : PlainValue → StyleValue
  | undefined => .undefined
  | number x => .number x
  | text s => .text s

mutual

/-- The value that is built. -/
def ValueDraft.build : ValueDraft → StyleValue
  | .plain value => value.toValue
  | .block body => .block body.build

/-- The declaration that is built. -/
def BodyDraft.build : BodyDraft → Declaration
  | .empty => .nil
  | .set before key value => before.build.insert key value.build
  | .collect entries => .ofList entries.build

/-- The entries that are built. -/
def EntryDrafts.build : EntryDrafts → List (String × StyleValue)
  | .nil => []
  | .cons key value rest => (key, value.build) :: rest.build

end

/-- The entries as a list. -/
def EntryDrafts.toList : EntryDrafts → List (String × ValueDraft)
  | nil => []
  | cons key value rest => (key, value) :: rest.toList

/-- The writes of the keys of a declaration, in order. -/
def BodyDraft.writes : BodyDraft → List (String × ValueDraft)
  | empty => []
  | set before key value => before.writes ++ [(key, value)]
  | collect entries => entries.toList

theorem EntryDrafts.build_eq_map (entries : EntryDrafts) :
    entries.build = entries.toList.map fun w => (w.1, w.2.build) := by
  fun_induction toList entries with
  | case1 => rfl
  | case2 key value rest ih => rw [build, ih, List.map_cons]

/-- However a declaration is built, its writes are carried out one after the other. -/
theorem BodyDraft.build_eq_ofList (body : BodyDraft) :
    body.build = .ofList (body.writes.map fun w => (w.1, w.2.build)) := by
  fun_induction writes body with
  | case1 => rfl
  | case2 before key value ih =>
    rw [build, ih, List.map_append, Declaration.ofList, Declaration.ofList, List.foldl_append]
    rfl
  | case3 entries => rw [build, entries.build_eq_map]

/-- A key has the value that is written last. -/
theorem BodyDraft.get?_build (body : BodyDraft) (key : String) :
    body.build.get? key = (lastWrite key body.writes).map ValueDraft.build := by
  rw [build_eq_ofList, Declaration.get?_ofList, lastWrite_map]

mutual

theorem ValueDraft.build_ordered : ∀ v : ValueDraft, v.build.Ordered
  | .plain value => by cases value <;> exact trivial
  | .block body => by
    rw [ValueDraft.build]
    exact body.build_ordered

/-- What is built is ordered at every depth. -/
theorem BodyDraft.build_ordered : ∀ body : BodyDraft, body.build.Ordered
  | .empty => trivial
  | .set before key value => by
    rw [BodyDraft.build]
    exact Declaration.ordered_insert before.build_ordered key value.build_ordered
  | .collect entries => by
    rw [BodyDraft.build]
    exact Declaration.ordered_ofList entries.build_ordered

theorem EntryDrafts.build_ordered : ∀ entries : EntryDrafts, ∀ e ∈ entries.build, e.2.Ordered
  | .nil => by simp [EntryDrafts.build]
  | .cons key value rest => by
    rw [EntryDrafts.build, List.forall_mem_cons]
    exact ⟨value.build_ordered, rest.build_ordered⟩

end

/-! ## What stands at a path -/

/-- The value itself, if it is no block. -/
def StyleValue.plain? : StyleValue → Option PlainValue
  | .undefined => some .undefined
  | .number x => some (.number x)
  | .text s => some (.text s)
  | .block _ => none

/-- What stands at a path below a value: nothing, a plain value, or a block, of which only that it
is one. -/
def StyleValue.topAt : List String → StyleValue → Option (Option PlainValue)
  | [], v => some v.plain?
  | key :: path, v => (v.block?.bind (Declaration.get? key)).bind (topAt path)

/-- The value itself, if no block is built. -/
def ValueDraft.plain? : ValueDraft → Option PlainValue
  | .plain value => some value
  | .block _ => none

/-- The writes of the keys of a block. -/
def ValueDraft.writes : ValueDraft → List (String × ValueDraft)
  | .plain _ => []
  | .block body => body.writes

/-- What is written last at a path below a value: nothing, a plain value, or a block, of which only
that it is one.  Writes inside a block that is replaced later do not count. -/
def ValueDraft.writtenAt : List String → ValueDraft → Option (Option PlainValue)
  | [], v => some v.plain?
  | key :: path, v => (lastWrite key v.writes).bind (writtenAt path)

theorem PlainValue.plain?_toValue (p : PlainValue) : p.toValue.plain? = some p := by
  cases p <;> rfl

theorem PlainValue.block?_toValue (p : PlainValue) : p.toValue.block? = none := by
  cases p <;> rfl

/-- At each path stands what is written there last. -/
theorem ValueDraft.topAt_build (v : ValueDraft) (path : List String) :
    v.build.topAt path = v.writtenAt path := by
  induction path generalizing v with
  | nil =>
    cases v with
    | plain value => rw [build, StyleValue.topAt, value.plain?_toValue]; rfl
    | block body => rw [build]; rfl
  | cons key path ih =>
    cases v with
    | plain value => rw [build, StyleValue.topAt, value.block?_toValue]; rfl
    | block body =>
      rw [build, StyleValue.topAt, writtenAt, writes, StyleValue.block?, Option.bind_some,
        body.get?_build, Option.bind_map]
      congr 1
      funext value
      exact ih value

namespace StyleValue

/-- A value that is no block is determined by the plain value of it. -/
theorem eq_toValue_of_plain? {v : StyleValue} {p : PlainValue} (h : v.plain? = some p) :
    v = p.toValue := by
  cases v <;> cases h <;> rfl

/-- Any other value is a block. -/
theorem exists_block_of_plain? {v : StyleValue} (h : v.plain? = none) :
    ∃ body, v = .block body := by
  cases v <;> first | exact ⟨_, rfl⟩ | cases h

/-- Values that look the same at each path are the same plain value, if they are no blocks. -/
theorem plain?_eq_of_topAt {v w : StyleValue} (h : ∀ path, v.topAt path = w.topAt path) :
    v.plain? = w.plain? :=
  Option.some.inj (h [])

end StyleValue

/-- Two optional values have the same image if they look the same at each path, where something stands
at the empty path, and values that look the same have the same image. -/
theorem map_eq_map_of_looks {α β γ : Type} {look : List String → α → Option β} {f : α → γ}
    {a a' : Option α} (hnil : ∀ x, look [] x ≠ none)
    (hlook : ∀ path, a.bind (look path) = a'.bind (look path))
    (hvalue : ∀ x x', a = some x → a' = some x' → (∀ path, look path x = look path x') → f x = f x') :
    a.map f = a'.map f := by
  cases a with
  | none =>
    cases a' with
    | none => rfl
    | some x' => exact absurd (hlook []).symm (hnil x')
  | some x =>
    cases a' with
    | none => exact absurd (hlook []) (hnil x)
    | some x' => exact congrArg some (hvalue x x' rfl rfl hlook)

/-- The values of an ordered declaration are determined by what stands at their paths. -/
theorem Declaration.Ordered.value_eq {d : Declaration} (hd : d.Ordered) :
    ∀ e ∈ d.entries, ∀ w : StyleValue, w.Ordered → (∀ path, e.2.topAt path = w.topAt path) →
      e.2 = w := by
  induction d using entry_induction with
  | nil => simp
  | leaf key value rest hvalue ih =>
    refine List.forall_mem_cons.2 ⟨fun w _ h => ?_, ih hd.2.2⟩
    obtain ⟨p, hp⟩ : ∃ p, value.plain? = some p := by
      cases value <;> first | exact ⟨_, rfl⟩ | cases hvalue
    rw [StyleValue.eq_toValue_of_plain? hp]
    exact (StyleValue.eq_toValue_of_plain? ((StyleValue.plain?_eq_of_topAt h).symm.trans hp)).symm
  | block key body rest ihBody ihRest =>
    refine List.forall_mem_cons.2 ⟨fun w hw h => ?_, ihRest hd.2.2⟩
    obtain ⟨body', rfl⟩ := StyleValue.exists_block_of_plain? (StyleValue.plain?_eq_of_topAt h).symm
    have hbody : body.Ordered := hd.2.1
    have hbody' : body'.Ordered := hw
    refine congrArg _ (eq_of_entries_eq (hbody.ascending.ext hbody'.ascending fun name => ?_))
    rw [← get?_eq_boundValue?, ← get?_eq_boundValue?]
    have hvalues : (body.get? name).map id = (body'.get? name).map id := by
      refine map_eq_map_of_looks (fun _ => Option.some_ne_none _) (fun path => h (name :: path)) ?_
      intro v v' hv hv' hlook
      rw [get?_eq_boundValue?] at hv hv'
      exact ihBody hbody (name, v) (mem_of_boundValue? hv) v'
        (hbody'.value (name, v') (mem_of_boundValue? hv')) hlook
    simpa using hvalues

/-- Ordered values are determined by what stands at their paths. -/
theorem StyleValue.eq_of_topAt {v w : StyleValue} (hv : v.Ordered) (hw : w.Ordered)
    (h : ∀ path, v.topAt path = w.topAt path) : v = w := by
  have hd : (Declaration.cons "" v .nil).Ordered := ⟨by simp [Declaration.keys], hv, trivial⟩
  exact hd.value_eq ("", v) List.mem_cons_self w hw h

/-- Two builds agree exactly when the same is written last at each path. -/
theorem ValueDraft.build_eq_iff {v w : ValueDraft} :
    v.build = w.build ↔ ∀ path, v.writtenAt path = w.writtenAt path := by
  constructor
  · intro h path
    rw [← v.topAt_build, ← w.topAt_build, h]
  · intro h
    refine StyleValue.eq_of_topAt v.build_ordered w.build_ordered fun path => ?_
    rw [v.topAt_build, w.topAt_build, h]

end StyleObjects
