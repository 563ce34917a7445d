import StyleObjects.Record.OfData
import StyleObjects.Record.ToJson

/-!
# Loading saved values

A value is saved as a JSON tree.  The tree is loaded with the members of its objects in ascending
order, and as dictionaries, declarations and modules list their entries in that order already, they
are read back as they were.

Main results:

- `Json.loaded_object`: ascending members are loaded in their order.
- `readEntries_saved`: a reader of entries finds what was saved, if it reads each value back.
- `Declaration.ofData_saved`, `StyleModule.ofData_saved`, `readDict_saved`: declarations, modules and
  dictionaries are read back.
-/

namespace StyleObjects

/-! ## Finite numbers -/

mutual

/-- Whether all numbers in a value are finite. -/
def StyleValue.isFinite : StyleValue → Bool
  | .number x => x.isFinite
  | .block body => body.isFinite
  | .undefined => true
  | .text _ => true

/-- Whether all numbers in a declaration are finite. -/
def Declaration.isFinite : Declaration → Bool
  | .nil => true
  | .cons _ value rest => value.isFinite && rest.isFinite

end

/-- Whether all numbers in a module are finite. -/
def StyleModule.isFinite (m : StyleModule) : Bool :=
  m.entries.all (·.2.isFinite)

/-! ## Trees as they are loaded -/

/-- Above all names of ascending entries, an entry is inserted at the end. -/
theorem insertEntry_of_above {α : Type} {name : String} {value : α} {entries : List (String × α)}
    (h : ∀ e ∈ entries, e.1 < name) : insertEntry name value entries = entries ++ [(name, value)] := by
  induction entries with
  | nil => rfl
  | cons entry rest ih =>
    have hentry := h entry (by simp)
    rw [insertEntry, if_neg (String.lt_asymm hentry), if_neg (Ne.symm (String.ne_of_lt hentry)),
      ih fun e he => h e (by simp [he])]
    rfl

namespace Json

/-- Ascending members keep their order when they are sorted. -/
theorem sortMembers_of_ascending {members done : List (String × Json)} (h : Ascending members)
    (hdone : ∀ e ∈ done, ∀ m ∈ members, e.1 < m.1) :
    sortMembers members done = done ++ members.map fun m => (m.1, m.2.sorted) := by
  induction members generalizing done with
  | nil => simp [sortMembers]
  | cons member rest ih =>
    obtain ⟨name, value⟩ := member
    have hrest : Ascending rest := (List.pairwise_cons.1 h).2
    rw [sortMembers, insertEntry_of_above fun e he => hdone e he (name, value) (by simp), ih hrest]
    · simp
    · intro e he m hm
      rcases List.mem_append.1 he with he | he
      · exact hdone e he m (by simp [hm])
      · obtain rfl := List.mem_singleton.1 he
        exact (List.pairwise_cons.1 h).1 m hm

/-- The data that a tree is loaded as. -/
def loaded (j : Json) : Data :=
  j.sorted.toData

theorem loaded_array (items : List Json) : (array items).loaded = .sequence (items.map loaded) := by
  have hitems : itemsToData (sortItems items) = items.map loaded := by
    induction items with
    | nil => rfl
    | cons item rest ih => simp [sortItems, itemsToData, ih, loaded]
  rw [loaded, sorted, toData, hitems]

/-- The members of an object become entries one by one. -/
theorem membersToData_eq_map (members : List (String × Json)) :
    membersToData members = members.map fun m => (.text m.1, m.2.toData) := by
  induction members with
  | nil => rfl
  | cons member rest ih => rw [membersToData, ih, List.map_cons]

/-- Ascending members are loaded in their order. -/
theorem loaded_object {α : Type} {entries : List (String × α)} (h : Ascending entries)
    (f : α → Json) :
    (object (entries.map fun e => (e.1, f e.2))).loaded =
      .mapping (entries.map fun e => (.text e.1, (f e.2).loaded)) := by
  have hmembers : Ascending (entries.map fun e => (e.1, f e.2)) := by
    rw [Ascending, List.pairwise_map]
    exact h
  rw [loaded, sorted, sortMembers_of_ascending hmembers (by simp), toData, membersToData_eq_map]
  simp [loaded]

mutual

/-- A tree carries no tags. -/
theorem hasTag_toData : ∀ j : Json, j.toData.hasTag = false
  | .array items => by rw [toData, Data.hasTag, anyTag_itemsToData items]
  | .object members => by rw [toData, Data.hasTag, anyTagIn_membersToData members]
  | .null => rfl
  | .bool _ => rfl
  | .integer _ => rfl
  | .real _ => rfl
  | .text _ => rfl

theorem anyTag_itemsToData : ∀ items : List Json, Data.anyTag (itemsToData items) = false
  | [] => rfl
  | item :: rest => by
    rw [itemsToData, Data.anyTag, hasTag_toData item, anyTag_itemsToData rest]
    rfl

theorem anyTagIn_membersToData : ∀ members : List (String × Json),
    Data.anyTagIn (membersToData members) = false
  | [] => rfl
  | (name, value) :: rest => by
    rw [membersToData, Data.anyTagIn, hasTag_toData value, anyTagIn_membersToData rest]
    rfl

end

end Json

/-! ## Declarations -/

namespace Declaration

/-- The entries of a declaration are saved one by one. -/
theorem members_eq_map (d : Declaration) : d.members = d.entries.map fun e => (e.1, e.2.toJson) := by
  fun_induction entries d with
  | case1 => rfl
  | case2 key value rest ih => rw [members, ih, List.map_cons]

/-- The entries of an ordered declaration ascend. -/
theorem Ordered.ascending {d : Declaration} (h : d.Ordered) : Ascending d.entries := by
  fun_induction entries d with
  | case1 => exact .nil
  | case2 key value rest ih =>
    refine List.pairwise_cons.2 ⟨?_, ih h.2.2⟩
    intro e he
    exact h.1 e.1 (List.mem_map_of_mem he)

/-- A declaration is its entries. -/
theorem eq_of_entries_eq {d e : Declaration} (h : d.entries = e.entries) : d = e := by
  induction d using Declaration.entries.induct generalizing e with
  | case1 =>
    cases e with
    | nil => rfl
    | cons => simp at h
  | case2 key value rest ih =>
    cases e with
    | nil => simp at h
    | cons =>
      simp only [entries_cons, List.cons.injEq, Prod.mk.injEq] at h
      obtain ⟨⟨rfl, rfl⟩, hrest⟩ := h
      rw [ih hrest]

/-- Above all keys, an entry is inserted at the end. -/
theorem entries_insert_of_above {d : Declaration} {key : String} {value : StyleValue}
    (h : ∀ e ∈ d.entries, e.1 < key) :
    (d.insert key value).entries = d.entries ++ [(key, value)] := by
  rw [entries_insert, insertEntry_of_above h]

/-- Ascending entries above those that are there are put behind them. -/
theorem entries_foldl_insert {items : List (String × StyleValue)} (h : Ascending items)
    {done : Declaration} (hdone : ∀ e ∈ done.entries, ∀ f ∈ items, e.1 < f.1) :
    (items.foldl (fun d e => d.insert e.1 e.2) done).entries = done.entries ++ items := by
  induction items generalizing done with
  | nil => simp
  | cons item rest ih =>
    obtain ⟨hbelow, hrest⟩ := List.pairwise_cons.1 h
    have hinsert : (done.insert item.1 item.2).entries = done.entries ++ [item] :=
      entries_insert_of_above fun e he => hdone e he item (by simp)
    rw [List.foldl_cons, ih hrest, hinsert]
    · simp
    · rw [hinsert]
      intro e he f hf
      rcases List.mem_append.1 he with he | he
      · exact hdone e he f (by simp [hf])
      · obtain rfl := List.mem_singleton.1 he
        exact hbelow f hf

/-- An ordered declaration is the declaration of its entries. -/
theorem ofList_entries {d : Declaration} (h : d.Ordered) : ofList d.entries = d := by
  have hentries := entries_foldl_insert h.ascending
    (by simp : ∀ e ∈ nil.entries, ∀ f ∈ d.entries, e.1 < f.1)
  exact eq_of_entries_eq hentries

/-- Sorting inserts the entries one after the other, if their values are sorted already. -/
theorem sortInto_eq_foldl {d : Declaration} (h : ∀ e ∈ d.entries, e.2.sorted = e.2)
    (done : Declaration) : d.sortInto done = d.entries.foldl (fun d e => d.insert e.1 e.2) done := by
  fun_induction entries d generalizing done with
  | case1 => rfl
  | case2 key value rest ih =>
    rw [List.forall_mem_cons] at h
    rw [sortInto, h.1, List.foldl_cons, ih h.2]

/-- The values of an ordered declaration are sorted. -/
theorem Ordered.sorted_value {d : Declaration} (h : d.Ordered) :
    ∀ e ∈ d.entries, e.2.sorted = e.2 := by
  induction d using entry_induction with
  | nil => simp
  | leaf key value rest hvalue ih =>
    refine List.forall_mem_cons.2 ⟨?_, ih h.2.2⟩
    cases value <;> first | rfl | simp [StyleValue.isBlock, StyleValue.block?] at hvalue
  | block key body rest ihBody ihRest =>
    refine List.forall_mem_cons.2 ⟨?_, ihRest h.2.2⟩
    show (StyleValue.block body).sorted = .block body
    rw [StyleValue.sorted, sortInto_eq_foldl (ihBody h.2.1)]
    exact congrArg _ (ofList_entries h.2.1)

/-- An ordered declaration is sorted. -/
theorem Ordered.sorted_eq_self {d : Declaration} (h : d.Ordered) : d.sorted = d := by
  rw [sorted, sortInto_eq_foldl h.sorted_value]
  exact ofList_entries h

end Declaration

/-- Saved as a member, a value that is no block is read back. -/
theorem StyleValue.ofData?_leaf {v : StyleValue} (hleaf : v.isBlock = false)
    (hfinite : v.isFinite = true) : ofData? v.toJson.loaded = some v := by
  cases v with
  | undefined => rfl
  | number x =>
    rw [isFinite] at hfinite
    rw [toJson, if_pos hfinite]
    rfl
  | text s => rfl
  | block body => simp [isBlock, block?] at hleaf

/-- An ordered block is saved and loaded as a mapping with its keys in order. -/
theorem StyleValue.loaded_block {body : Declaration} (h : body.Ordered) :
    (StyleValue.block body).toJson.loaded =
      .mapping (body.entries.map fun e => (.text e.1, e.2.toJson.loaded)) := by
  rw [toJson, Declaration.members_eq_map, Json.loaded_object h.ascending]

/-- Entries are inserted one after the other, if their values are read back. -/
theorem Declaration.insertAll?_saved {items : List (String × StyleValue)}
    (h : ∀ e ∈ items, StyleValue.ofData? e.2.toJson.loaded = some e.2) (done : Declaration) :
    insertAll? (items.map fun e => (.text e.1, e.2.toJson.loaded)) done =
      some (items.foldl (fun d e => d.insert e.1 e.2) done) := by
  induction items generalizing done with
  | nil => rfl
  | cons item rest ih =>
    rw [List.forall_mem_cons] at h
    rw [List.map_cons, insertAll?, h.1, List.foldl_cons]
    exact ih h.2 _

/-- A block is read back if its values are. -/
theorem StyleValue.ofData?_block {body : Declaration} (hordered : body.Ordered)
    (h : ∀ e ∈ body.entries, ofData? e.2.toJson.loaded = some e.2) :
    ofData? (StyleValue.block body).toJson.loaded = some (.block body) := by
  rw [loaded_block hordered, ofData?, Declaration.insertAll?_saved h]
  exact congrArg _ (congrArg _ (Declaration.ofList_entries hordered))

/-- The values of an ordered declaration with finite numbers are read back, at every depth. -/
theorem Declaration.Ordered.ofData?_value {d : Declaration} (h : d.Ordered)
    (hfinite : d.isFinite = true) :
    ∀ e ∈ d.entries, StyleValue.ofData? e.2.toJson.loaded = some e.2 := by
  induction d using entry_induction with
  | nil => simp
  | leaf key value rest hvalue ih =>
    rw [isFinite, Bool.and_eq_true] at hfinite
    exact List.forall_mem_cons.2
      ⟨StyleValue.ofData?_leaf hvalue hfinite.1, ih h.2.2 hfinite.2⟩
  | block key body rest ihBody ihRest =>
    rw [isFinite, Bool.and_eq_true] at hfinite
    have hbody := ihBody h.2.1 hfinite.1
    exact List.forall_mem_cons.2
      ⟨StyleValue.ofData?_block h.2.1 hbody, ihRest h.2.2 hfinite.2⟩

/-- A value that can be read is read, since a saved value has no tags. -/
theorem readStyleValue_saved {v : StyleValue} (h : StyleValue.ofData? v.toJson.loaded = some v) :
    readStyleValue v.toJson.loaded = .ok v := by
  have htag : v.toJson.loaded.hasTag = false := Json.hasTag_toData _
  rw [readStyleValue, htag, h]
  rfl

/-! ## Readers of entries -/

section Entries

variable {α β : Type} {add : β → String → α → β} {readValue : Data → Shaped α}

/-- If each entry of an ascending list is read back and put at the end, all of them are. -/
theorem readEntries_append (listing : β → List (String × α)) (data : α → Data)
    {items : List (String × α)} (hitems : Ascending items)
    (hread : ∀ e ∈ items, readValue (data e.2) = .ok e.2)
    (hadd : ∀ (b : β), ∀ e ∈ items, (∀ x ∈ listing b, x.1 < e.1) →
      listing (add b e.1 e.2) = listing b ++ [e])
    {start : β} (hstart : ∀ x ∈ listing start, ∀ e ∈ items, x.1 < e.1) :
    ∃ b, readEntries add readValue start (items.map fun e => (.text e.1, data e.2)) = .ok b ∧
      listing b = listing start ++ items := by
  induction items generalizing start with
  | nil => exact ⟨start, rfl, by simp⟩
  | cons item rest ih =>
    obtain ⟨hbelow, hrest⟩ := List.pairwise_cons.1 hitems
    have hfirst := hadd start item (by simp) fun x hx => hstart x hx item (by simp)
    have hnext : ∀ x ∈ listing (add start item.1 item.2), ∀ e ∈ rest, x.1 < e.1 := by
      rw [hfirst]
      intro x hx e he
      rcases List.mem_append.1 hx with hx | hx
      · exact hstart x hx e (by simp [he])
      · obtain rfl := List.mem_singleton.1 hx
        exact hbelow e he
    obtain ⟨b, hb, hlisting⟩ := ih hrest (fun e he => hread e (by simp [he]))
      (fun b e he => hadd b e (by simp [he])) hnext
    refine ⟨b, ?_, ?_⟩
    · have hvalue := hread item (by simp)
      simp only [readEntries] at hb ⊢
      rw [List.map_cons, List.foldlM_cons, hvalue]
      exact hb
    · rw [hlisting, hfirst]
      simp

/-- A reader of entries finds what was saved, if it reads each value back, adds entries at the end,
and starts without any. -/
theorem readEntries_saved (listing : β → List (String × α)) (data : α → Data) {saved start : β}
    (hlisting : ∀ b, listing b = listing saved → b = saved) (hsaved : Ascending (listing saved))
    (hread : ∀ e ∈ listing saved, readValue (data e.2) = .ok e.2)
    (hadd : ∀ (b : β), ∀ e ∈ listing saved, (∀ x ∈ listing b, x.1 < e.1) →
      listing (add b e.1 e.2) = listing b ++ [e])
    (hstart : listing start = []) :
    readEntries add readValue start ((listing saved).map fun e => (.text e.1, data e.2)) =
      .ok saved := by
  obtain ⟨b, hb, hentries⟩ := readEntries_append listing data hsaved hread hadd
    (by simp [hstart] : ∀ x ∈ listing start, ∀ e ∈ listing saved, x.1 < e.1)
  rw [hstart, List.nil_append] at hentries
  rw [hb, hlisting b hentries]

end Entries

/-- A declaration is read back from its members. -/
theorem Declaration.ofData_saved {d : Declaration} (hordered : d.Ordered)
    (hfinite : d.isFinite = true) :
    Declaration.ofData .json (Json.object d.members).loaded = .ok d := by
  rw [members_eq_map, Json.loaded_object hordered.ascending]
  refine readEntries_saved entries (fun v => v.toJson.loaded) (fun _ => eq_of_entries_eq)
    hordered.ascending ?_ ?_ rfl
  · intro e he
    exact readStyleValue_saved (hordered.ofData?_value hfinite e he)
  · intro b e _ habove
    exact entries_insert_of_above habove

/-- A module is read back. -/
theorem StyleModule.ofData_saved {m : StyleModule} (hfinite : m.isFinite = true) :
    StyleModule.ofData .json m.toJson.loaded = .ok m := by
  have hascending : Ascending m.entries := m.objects.ascending
  rw [toJson, Json.loaded_object hascending fun d => .object d.members]
  refine readEntries_saved entries (fun d => (Json.object d.members).loaded) ?_ hascending ?_ ?_ rfl
  · intro n hentries
    exact StyleModule.ext (Dict.ext hentries)
  · intro e he
    exact Declaration.ofData_saved (m.ordered e he) (List.all_eq_true.1 hfinite e he)
  · intro n e he habove
    have hsorted : e.2.sorted = e.2 := (m.ordered e he).sorted_eq_self
    show insertEntry e.1 e.2.sorted n.entries = n.entries ++ [e]
    rw [hsorted, insertEntry_of_above habove]

/-! ## Settings -/

/-- A dictionary of texts is read back. -/
theorem readDict_saved (d : Dict String) : readDict .json d.toJson.loaded = .ok d := by
  rw [Dict.toJson, Json.loaded_object d.ascending]
  refine readEntries_saved Dict.entries (fun s => (Json.text s).loaded) (fun _ => Dict.ext)
    d.ascending (fun _ _ => rfl) ?_ rfl
  intro b e _ habove
  exact insertEntry_of_above habove

/-- A list of texts is read back, repetitions included. -/
theorem readTexts_saved (texts : List String) :
    readTexts .json (Json.array (texts.map .text)).loaded = .ok texts := by
  rw [Json.loaded_array, List.map_map]
  show (texts.map (Json.loaded ∘ .text)).mapM readText = .ok texts
  induction texts with
  | nil => rfl
  | cons text rest ih =>
    rw [List.map_cons, List.mapM_cons, ih]
    rfl

end StyleObjects
