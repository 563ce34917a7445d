import StyleObjects.CommandLine.Run
import StyleObjects.Proofs.SavedValues

/-!
# Loading undoes saving

A record is saved without the fields that are absent or empty.  Its members are loaded in ascending
order, not in the order in which they were written, and are read into a draft one after the other;
whatever was left out is completed as it was.

Main results:

- `Record.loaded_toJson`: a record is loaded as its fields in ascending order.
- `Draft.ofEntries_saved`: from some saved fields a reader knows exactly these.
- `RecordSet.ofData_toJson`: loading undoes saving.
-/

namespace StyleObjects

/-- Whether all numbers in a record are finite. -/
def Record.isFinite (r : Record) : Bool :=
  r.styles.isFinite

/-- Whether all numbers in a set of records are finite. -/
def RecordSet.isFinite (s : RecordSet) : Bool :=
  s.toList.all Record.isFinite

/-! ## The fields of a saved record -/

namespace Record

/-- What a field is saved as, unless it is left out. -/
def saved? (r : Record) : Field → Option Json
  | .name => r.name.map .text
  | .prepend => r.prepend.map .text
  | .overrides => if r.overrides.isEmpty then none else some r.overrides.toJson
  | .combinators => if r.combinators.isEmpty then none else some r.combinators.toJson
  | .ignore => if r.ignore.isEmpty then none else some (.array (r.ignore.map .text))
  | .version => r.version.map .text
  | .map => some (.bool r.map)
  | .styles => some r.styles.toJson

/-- The members for some fields. -/
def members (r : Record) (fields : List Field) : List (String × Json) :=
  fields.filterMap fun f => (r.saved? f).map fun j => (f.key, j)

/-- A record is saved field by field. -/
theorem toJson_eq_members (r : Record) : r.toJson = .object (r.members Field.all) := by
  have hoption (name : String) (s : Option String) :
      optionalMember name s = ((s.map Json.text).map fun j => (name, j)).toList := by
    cases s <;> rfl
  have hmap (c : Bool) (name : String) (j : Json) : (if c then [] else [(name, j)]) =
      ((if c then none else some j).map fun j => (name, j)).toList := by
    cases c <;> rfl
  have hcons (f : Field) (rest : List Field) : r.members (f :: rest) =
      ((r.saved? f).map fun j => (f.key, j)).toList ++ r.members rest := by
    cases hsaved : r.saved? f <;> simp [members, hsaved]
  have hnil : r.members [] = [] := rfl
  simp only [toJson, Field.all, hcons, hnil, hoption, dictMember, hmap, saved?, Field.key,
    Option.map_some, Option.toList_some, List.append_assoc, List.append_nil, List.cons_append,
    List.nil_append]

end Record

/-- The fields in ascending order of their names. -/
def Field.ascending : List Field :=
  [.combinators, .ignore, .map, .styles, .name, .overrides, .prepend, .version]

/-- The names of the fields, listed that way, ascend. -/
theorem Field.ascending_pairwise : Field.ascending.Pairwise fun f g => f.key < g.key := by
  decide

/-- No field is left out of the list. -/
theorem Field.all_perm_ascending : Field.all.Perm Field.ascending := by
  decide

namespace Json

/-- Binding a new name adds one entry. -/
theorem insertEntry_perm {α : Type} {name : String} {value : α} {entries : List (String × α)}
    (h : ∀ e ∈ entries, e.1 ≠ name) :
    (insertEntry name value entries).Perm ((name, value) :: entries) := by
  induction entries with
  | nil => exact .refl _
  | cons entry rest ih =>
    rw [List.forall_mem_cons] at h
    rw [insertEntry]
    split
    · exact .refl _
    · rw [if_neg (Ne.symm h.1)]
      exact ((ih h.2).cons entry).trans (.swap _ _ _)

/-- Sorting members with distinct names only changes their order. -/
theorem sortMembers_perm {members done : List (String × Json)}
    (h : members.Pairwise fun m n => m.1 ≠ n.1) (hdone : ∀ e ∈ done, ∀ m ∈ members, e.1 ≠ m.1) :
    (sortMembers members done).Perm (done ++ members.map fun m => (m.1, m.2.sorted)) := by
  induction members generalizing done with
  | nil => simp [sortMembers]
  | cons member rest ih =>
    obtain ⟨name, value⟩ := member
    obtain ⟨hfirst, hrest⟩ := List.pairwise_cons.1 h
    have hinsert : (insertEntry name value.sorted done).Perm ((name, value.sorted) :: done) :=
      insertEntry_perm fun e he => hdone e he (name, value) (by simp)
    have hnext : ∀ e ∈ insertEntry name value.sorted done, ∀ m ∈ rest, e.1 ≠ m.1 := by
      intro e he m hm
      rcases mem_insertEntry he with rfl | he
      · exact hfirst m hm
      · exact hdone e he m (by simp [hm])
    rw [sortMembers]
    refine (ih hrest hnext).trans ?_
    refine (hinsert.append_right _).trans ?_
    simpa using List.perm_middle.symm

/-- There is one ascending order of members, however they are written. -/
theorem sortMembers_of_perm {members ascending : List (String × Json)}
    (h : members.Perm ascending) (hascending : Ascending ascending) :
    sortMembers members [] = ascending.map fun m => (m.1, m.2.sorted) := by
  have hdistinct : members.Pairwise fun m n => m.1 ≠ n.1 :=
    (h.pairwise_iff fun hne => hne.symm).2 (hascending.imp String.ne_of_lt)
  have hperm : (sortMembers members []).Perm (ascending.map fun m => (m.1, m.2.sorted)) :=
    (sortMembers_perm hdistinct (by simp)).trans (h.map _)
  refine List.Perm.eq_of_pairwise ?_ (ascending_sortMembers members .nil) ?_ hperm
  · intro a b _ _ hab hba
    exact absurd hba (String.lt_asymm hab)
  · rw [List.pairwise_map]
    exact hascending

end Json

/-- A record is loaded as its fields in ascending order. -/
theorem Record.loaded_toJson (r : Record) :
    r.toJson.loaded =
      .mapping ((r.members Field.ascending).map fun m => (.text m.1, m.2.loaded)) := by
  have hperm : (r.members Field.all).Perm (r.members Field.ascending) :=
    Field.all_perm_ascending.filterMap _
  have hascending : Ascending (r.members Field.ascending) := by
    rw [Ascending, members, List.pairwise_filterMap]
    refine Field.ascending_pairwise.imp ?_
    rintro f g hfg m hm n hn
    obtain ⟨_, _, rfl⟩ := Option.map_eq_some_iff.1 hm
    obtain ⟨_, _, rfl⟩ := Option.map_eq_some_iff.1 hn
    exact hfg
  rw [toJson_eq_members, Json.loaded, Json.sorted, Json.sortMembers_of_perm hperm hascending,
    Json.toData, Json.membersToData_eq_map, List.map_map]
  rfl

/-! ## Reading the fields -/

namespace Draft

/-- The draft that knows some fields of a record. -/
def part (r : Record) (known : Field → Bool) : Draft where
  name := if known .name then some r.name else none
  prepend := if known .prepend then some r.prepend else none
  overrides := if known .overrides then some r.overrides else none
  combinators := if known .combinators then some r.combinators else none
  ignore := if known .ignore then some r.ignore else none
  version := if known .version then some r.version else none
  map := if known .map then some (some r.map) else none
  styles := if known .styles then some (some r.styles) else none

/-- Of a part of a record exactly the chosen fields are known. -/
theorem has_part (r : Record) (known : Field → Bool) (f : Field) :
    (part r known).has f = known f := by
  cases f <;> cases hknown : known _ <;> simp [part, has, hknown]

/-- A text that may be absent is read back. -/
theorem readOptional_saved {s : Option String} {j : Json} (h : s.map .text = some j) :
    readOptional readText j.loaded = .ok s := by
  obtain ⟨text, rfl, rfl⟩ := Option.map_eq_some_iff.1 h
  rfl

/-- A module with finite numbers is read back. -/
theorem readOptional_module_saved {m : StyleModule} (hfinite : m.isFinite = true) :
    readOptional (StyleModule.ofData .json) m.toJson.loaded = .ok (some m) := by
  have hmapping : readOptional (StyleModule.ofData .json) m.toJson.loaded =
      some <$> StyleModule.ofData .json m.toJson.loaded := rfl
  rw [hmapping, StyleModule.ofData_saved hfinite]
  rfl

/-- A saved field is read back into a draft, which knows one field more. -/
theorem readField_saved {r : Record} (hfinite : r.isFinite = true) (known : Field → Bool)
    {f : Field} {j : Json} (hsaved : r.saved? f = some j) :
    readField .json (part r known) f j.loaded = .ok (part r fun g => known g || g == f) := by
  cases f with
  | name =>
    rw [readField, readOptional_saved hsaved]
    simp [part, bind, Except.bind, pure, Except.pure]
  | prepend =>
    rw [readField, readOptional_saved hsaved]
    simp [part, bind, Except.bind, pure, Except.pure]
  | overrides =>
    obtain rfl := Option.some.inj (Option.ite_none_left_eq_some.1 hsaved).2
    rw [readField, readDict_saved]
    simp [part, bind, Except.bind, pure, Except.pure]
  | combinators =>
    obtain rfl := Option.some.inj (Option.ite_none_left_eq_some.1 hsaved).2
    rw [readField, readDict_saved]
    simp [part, bind, Except.bind, pure, Except.pure]
  | ignore =>
    obtain rfl := Option.some.inj (Option.ite_none_left_eq_some.1 hsaved).2
    rw [readField, readTexts_saved]
    simp [part, bind, Except.bind, pure, Except.pure]
  | version =>
    rw [readField, readOptional_saved hsaved]
    simp [part, bind, Except.bind, pure, Except.pure]
  | map =>
    obtain rfl := Option.some.inj hsaved
    have hread : readOptional readBool (Json.bool r.map).loaded = .ok (some r.map) := rfl
    rw [readField, hread]
    simp [part, bind, Except.bind, pure, Except.pure]
  | styles =>
    obtain rfl := Option.some.inj hsaved
    rw [readField, readOptional_module_saved hfinite]
    simp [part, bind, Except.bind, pure, Except.pure]

/-- A field is found by its name. -/
theorem ofKey?_key (f : Field) : Field.ofKey? f.key = some f := by
  cases f <;> decide

/-- Reading saved fields one after the other, a draft comes to know them. -/
theorem ofEntries_saved {r : Record} (hfinite : r.isFinite = true) {fields : List Field}
    (hfields : fields.Nodup) {known : Field → Bool} (hknown : ∀ f ∈ fields, known f = false) :
    ((r.members fields).map fun m => (.text m.1, m.2.loaded)).foldlM (readEntry .json)
        (part r known) =
      .ok (part r fun f => known f || (fields.contains f && (r.saved? f).isSome)) := by
  induction fields generalizing known with
  | nil => simp [Record.members, pure, Except.pure]
  | cons f rest ih =>
    obtain ⟨hfirst, hrest⟩ := List.nodup_cons.1 hfields
    rw [List.forall_mem_cons] at hknown
    cases hsaved : r.saved? f with
    | none =>
      have hmembers : r.members (f :: rest) = r.members rest := by
        simp [Record.members, hsaved]
      rw [hmembers, ih hrest hknown.2]
      congr 2
      funext g
      by_cases hg : g = f
      · simp [hg, hsaved]
      · simp [hg]
    | some j =>
      have hmembers : r.members (f :: rest) = (f.key, j) :: r.members rest := by
        simp [Record.members, hsaved]
      have hentry : readEntry .json (part r known) (.text f.key, j.loaded) =
          .ok (part r fun g => known g || g == f) := by
        have hkey : readKey (.text f.key) = .ok f.key := rfl
        rw [readEntry, hkey]
        simp only [bind, Except.bind, ofKey?_key, has_part, hknown.1]
        exact readField_saved hfinite known hsaved
      have hnext : ∀ g ∈ rest, (known g || g == f) = false := by
        intro g hg
        have hne : g ≠ f := fun h => hfirst (h ▸ hg)
        simp [hknown.2 g hg, hne]
      rw [hmembers, List.map_cons, List.foldlM_cons, hentry]
      refine (ih hrest hnext).trans ?_
      congr 2
      funext g
      by_cases hg : g = f
      · simp [hg, hsaved]
      · simp [hg, beq_false_of_ne hg]

/-- A field that is left out as absent is read as absent. -/
theorem join_known {α : Type} {known : Bool} {s : Option α} (h : known = false → s = none) :
    (if known then some s else none).join = s := by
  cases known with
  | true => rfl
  | false => exact (h rfl).symm

/-- A field that is left out because of its default is read as the default. -/
theorem getD_known {α : Type} {known : Bool} {value default : α}
    (h : known = false → value = default) :
    (if known then some value else none).getD default = value := by
  cases known with
  | true => rfl
  | false => exact (h rfl).symm

/-- Only an empty dictionary is left out. -/
theorem eq_empty_of_saved {d : Dict String}
    (h : (if d.isEmpty then none else some d.toJson).isSome = false) : d = .empty := by
  by_cases hd : d.isEmpty = true
  · exact Dict.ext (List.isEmpty_iff.1 hd)
  · simp [hd] at h

/-- A draft that knows what was saved of a record is completed to the record. -/
theorem finish_part (r : Record) (index : Option Nat) :
    (part r fun f => (r.saved? f).isSome).finish index = .ok r := by
  let d := part r fun f => (r.saved? f).isSome
  have hname : d.name.join = r.name := join_known (by simp [Record.saved?])
  have hprepend : d.prepend.join = r.prepend := join_known (by simp [Record.saved?])
  have hoverrides : d.overrides.getD .empty = r.overrides := getD_known eq_empty_of_saved
  have hcombinators : d.combinators.getD .empty = r.combinators := getD_known eq_empty_of_saved
  have hignore : d.ignore.getD [] = r.ignore := getD_known (by simp [Record.saved?])
  have hversion : d.version.join = r.version := join_known (by simp [Record.saved?])
  have hmap : d.map.join.getD false = r.map := rfl
  have hstyles : d.styles.join = some r.styles := rfl
  show d.finish index = .ok r
  simp only [finish, hname, hprepend, hoverrides, hcombinators, hignore, hversion, hmap, hstyles]
  rfl

end Draft

/-! ## Records -/

/-- A record is read back. -/
theorem Record.ofData_saved {r : Record} (hfinite : r.isFinite = true) (index : Option Nat) :
    Record.ofData .json index r.toJson.loaded = .ok r := by
  have hentries := Draft.ofEntries_saved hfinite (by decide : Field.ascending.Nodup)
    (fun _ _ => rfl : ∀ f ∈ Field.ascending, (fun _ => false) f = false)
  have hknown : (fun f => false || (Field.ascending.contains f && (r.saved? f).isSome)) =
      fun f => (r.saved? f).isSome := by
    funext f
    cases f <;> rfl
  rw [hknown] at hentries
  have hdraft : Draft.ofData .json r.toJson.loaded =
      .ok (.part r fun f => (r.saved? f).isSome) := by
    rw [loaded_toJson]
    exact hentries
  have hmodule : ((Draft.part r fun f => (r.saved? f).isSome).finish index).mapError
      RecordError.missingModule = .ok r := by
    rw [Draft.finish_part]
    rfl
  rw [Record.ofData, hdraft]
  exact hmodule

/-- A list of records with finite numbers is read back. -/
theorem Record.listOfData_saved {records : List Record}
    (hfinite : ∀ r ∈ records, r.isFinite = true) (index : Nat) :
    Record.listOfData .json index (records.map fun r => r.toJson.loaded) = .ok records := by
  induction records generalizing index with
  | nil => rfl
  | cons r rest ih =>
    rw [List.forall_mem_cons] at hfinite
    rw [List.map_cons, listOfData, Record.ofData_saved hfinite.1, ih hfinite.2]
    rfl

/-- A set of records is read back, in its shape. -/
theorem RecordSet.ofData_saved {s : RecordSet} (hfinite : s.isFinite = true) :
    RecordSet.ofData .json s.toJson.loaded = .ok s := by
  have hrecords : ∀ r ∈ s.toList, r.isFinite = true := List.all_eq_true.1 hfinite
  cases s with
  | one r =>
    have hsingle : RecordSet.ofData .json r.toJson.loaded =
        one <$> Record.ofData .json none r.toJson.loaded := by
      rw [Record.loaded_toJson]
      rfl
    rw [toJson, hsingle, Record.ofData_saved (hrecords r (by simp [toList]))]
    rfl
  | many records =>
    rw [toJson, Json.loaded_array, ofData, List.map_map]
    exact congrArg (many <$> ·) (Record.listOfData_saved hrecords 0)

/-! ## Texts -/

/-- A text that is parsed as a saved set of records is loaded as this set. -/
theorem RecordSet.parse_saved {s : RecordSet} (hfinite : s.isFinite = true) {text : String}
    (htext : Json.parse? text = some s.toJson) : RecordSet.parse .json text = .ok s := by
  have hdata : Format.json.parse text = .ok s.toJson.loaded := by
    rw [Format.parse, htext]
    rfl
  have hset : (RecordSet.ofData .json s.toJson.loaded).mapError (·.inText .json) = .ok s := by
    rw [ofData_saved hfinite]
    rfl
  rw [parse, hdata]
  exact hset

namespace CommandLine

/-- A sequence of two steps succeeds if both do, one after the other. -/
theorem run_bind_eq_ok {σ ε α β : Type} {x : ExceptT ε (StateM σ) α}
    {f : α → ExceptT ε (StateM σ) β} {before after : σ} {b : β}
    (h : (x >>= f).run.run before = (.ok b, after)) :
    ∃ a between, x.run.run before = (.ok a, between) ∧ (f a).run.run between = (.ok b, after) := by
  rw [ExceptT.run_bind, StateT.run_bind] at h
  cases hx : x.run.run before with
  | mk result between =>
    rw [hx] at h
    cases result with
    | ok a => exact ⟨a, between, rfl, h⟩
    | error e =>
      have hresult : (Except.error e : Except ε β) = .ok b := congrArg Prod.fst h
      simp at hresult

/-- What the extraction command prints is the record that it extracts. -/
theorem run_extract {σ : Type} {fs : FileAccess (StateM σ)} {source module : String}
    {name prepend version : Option String} {map : Bool} {pattern : Option String}
    {renamings : List (String × String)} {before after : σ} {out : String}
    (h : (Command.run fs (.extract source module name prepend version map pattern renamings)).run.run
      before = (.ok out, after)) :
    ∃ tags r, renamedTags renamings = .ok tags ∧
      (extractRecord fs source module { name, prepend, version, map, pattern, tags }).run.run before =
        (.ok r, after) ∧ out = r.toJson.pretty ++ "\n" := by
  rw [Command.run] at h
  obtain ⟨tags, between, htags, hrest⟩ := run_bind_eq_ok h
  obtain ⟨r, last, hextract, hprint⟩ := run_bind_eq_ok hrest
  obtain ⟨hresult, rfl⟩ := Prod.mk.inj htags
  obtain ⟨hout, rfl⟩ := Prod.mk.inj hprint
  refine ⟨tags, r, ?_, hextract, ?_⟩
  · cases hrenamed : renamedTags renamings with
    | ok given =>
      rw [hrenamed] at hresult
      exact congrArg Except.ok (Except.ok.inj hresult)
    | error e =>
      rw [hrenamed] at hresult
      cases hresult
  · exact (Except.ok.inj hout).symm

end CommandLine

/-! ## The whole way -/

/-- Loading undoes saving: as a tree, as a text that is parsed as the tree, and for the text that the
extraction command prints.  So nothing is lost for the compiler on the way. -/
theorem RecordSet.ofData_toJson {s : RecordSet} (hfinite : s.isFinite = true) :
    RecordSet.ofData .json s.toJson.sorted.toData = .ok s ∧
    (∀ text, Json.parse? text = some s.toJson →
      RecordSet.parse .json text = .ok s ∧
        (RecordSet.parse .json text).map RecordSet.compile = .ok s.compile) ∧
    ∀ {σ : Type} (fs : FileAccess (StateM σ)) (source module : String)
      (name prepend version : Option String) (map : Bool) (pattern : Option String)
      (renamings : List (String × String)) (before after : σ) (out : String),
      (CommandLine.Command.run fs
        (.extract source module name prepend version map pattern renamings)).run.run before =
          (.ok out, after) →
      ∃ tags r, CommandLine.renamedTags renamings = .ok tags ∧
        (CommandLine.extractRecord fs source module
          { name, prepend, version, map, pattern, tags }).run.run before = (.ok r, after) ∧
        out = r.toJson.pretty ++ "\n" ∧
        (r.isFinite = true → Json.parse? out = some r.toJson →
          RecordSet.parse .json out = .ok (.one r) ∧
            (RecordSet.parse .json out).map RecordSet.compile = .ok (.one r.compile)) := by
  refine ⟨ofData_saved hfinite, ?_, ?_⟩
  · intro text htext
    have hparse := parse_saved hfinite htext
    refine ⟨hparse, ?_⟩
    rw [hparse]
    rfl
  · intro σ fs source module name prepend version map pattern renamings before after out hrun
    obtain ⟨tags, r, htags, hextract, hprint⟩ := CommandLine.run_extract hrun
    refine ⟨tags, r, htags, hextract, hprint, ?_⟩
    intro hr hout
    have hset : (RecordSet.one r).isFinite = true := by simp [RecordSet.isFinite, toList, hr]
    have hparse : RecordSet.parse .json out = .ok (.one r) := parse_saved hset hout
    refine ⟨hparse, ?_⟩
    rw [hparse]
    rfl

/-- Two records: one with an empty name, a repeated name to ignore, an absent value, a number and a
block, and one without objects. -/
def RecordSet.sample : RecordSet :=
  .many [
    { Record.ofModule (.ofList [("card", .cons "top" (.number (.finite false 3 1074))
        (.cons "color" .undefined (.cons ":hover" (.block (.cons "left" (.text "0") .nil)) .nil)))])
      with
      name := some ""
      ignore := ["tab", "tab"] },
    .ofModule .empty]

/-- A source without comments, beside a module without objects. -/
def RecordSet.sampleFiles : FileAccess (StateM Unit) where
  readText path := pure (.ok (if path = "tabs.js" then "" else "\x7b\x7d"))
  writeText _ _ := pure (.ok ())
  makeDirectory _ := pure (.ok ())
  isDirectory _ := pure false

/-- The record that is extracted from these files. -/
def RecordSet.sampleRecord : Record :=
  { Record.ofModule .empty with name := some "tabs" }

/-- What the extraction command prints for these files. -/
def RecordSet.sampleOutput : String :=
  "\x7b\n  \"name\": \"tabs\",\n  \"map\": false,\n  \"module\": \x7b\x7d\n\x7d\n"

theorem RecordSet.ofData_toJson_sample :
    sample.isFinite = true ∧ RecordSet.ofData .json sample.toJson.sorted.toData = .ok sample ∧
      (Json.parse? "[\x7b\"map\": false, \"module\": \x7b\x7d\x7d]" =
          some (many [.ofModule .empty]).toJson ∧
        RecordSet.parse .json "[\x7b\"map\": false, \"module\": \x7b\x7d\x7d]" =
          .ok (many [.ofModule .empty])) ∧
      (CommandLine.Command.run sampleFiles
          (.extract "tabs.js" "tabs.json" (some "tabs") none none false none [])).run.run () =
        (.ok sampleOutput, ()) ∧
      RecordSet.parse .json sampleOutput = .ok (.one sampleRecord) := by
  have hfinite : sample.isFinite = true := by decide +kernel
  have htext : Json.parse? "[\x7b\"map\": false, \"module\": \x7b\x7d\x7d]" =
      some (many [.ofModule .empty]).toJson := by
    with_unfolding_all rfl
  have hrun : (CommandLine.Command.run sampleFiles
      (.extract "tabs.js" "tabs.json" (some "tabs") none none false none [])).run.run () =
        (.ok sampleOutput, ()) := by
    with_unfolding_all rfl
  obtain ⟨tags, r, htags, hextract, _, hloaded⟩ :=
    (ofData_toJson hfinite).2.2 sampleFiles _ _ _ _ _ _ _ _ _ _ _ hrun
  obtain rfl : Tags.usual = tags := Except.ok.inj htags
  have hrecord : (CommandLine.extractRecord sampleFiles "tabs.js" "tabs.json"
      { ExtractSettings.empty with name := some "tabs" }).run.run () = (.ok sampleRecord, ()) := by
    with_unfolding_all rfl
  obtain rfl : sampleRecord = r :=
    Except.ok.inj (congrArg Prod.fst (hrecord.symm.trans hextract))
  have hout : Json.parse? sampleOutput = some sampleRecord.toJson := by
    with_unfolding_all rfl
  exact ⟨hfinite, (ofData_toJson hfinite).1, ⟨htext, ((ofData_toJson (by decide)).2.1 _ htext).1⟩,
    hrun, (hloaded (by decide) hout).1⟩

end StyleObjects
