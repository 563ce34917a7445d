import StyleObjects.Files.Tree
import StyleObjects.Proofs.PathSegments

/-!
# What writing changes in a file tree

A path leads to one location in every tree in which it can be followed.  Making a directory adds it
where nothing was; writing a text changes the file at the location of its path.  So whatever a run
makes and writes, all directories stay, and so do the files at other locations.

Main results:

- `FileTree.append_last_eq_locate`: a path that can be followed leads to its location.
- `FileTree.Keeps.readText`: a text that is read stays readable as long as its location is kept.
- `writeAll_onlyWrites`: writing files changes no file at other locations, even if it fails.
- `readText_of_writeAll`: after a run, a file holds the last text that was written to its location.
-/

namespace StyleObjects

namespace FileTree

/-! ## Locations -/

/-- Goes from a location to another by one segment that means something. -/
def descend (l : Location) (segment : List Char) : Location :=
  if segment = ['.', '.'] then above l else l ++ [segment]

/-- The location that a path leads to. -/
def locate (path : String) : Location :=
  (Path.segments path).foldl descend (startOf path)

/-- Names lead further down, one after the other. -/
theorem foldl_descend_of_isName {names : List (List Char)}
    (h : ∀ segment ∈ names, Path.isName segment = true) (l : Location) :
    names.foldl descend l = l ++ names := by
  induction names generalizing l with
  | nil => simp
  | cons name rest ih =>
    rw [List.forall_mem_cons] at h
    rw [List.foldl_cons, ih h.2, descend, if_neg (Path.isName_iff.1 h.1).2.2]
    simp

/-- An inner path leads to a location inside of the directory that it is relative to. -/
theorem locate_append {path : String} (hrelative : Path.isAbsolute path = false)
    (hnames : ∀ segment ∈ Path.segments path, Path.isName segment = true) (directory : String) :
    locate (Path.append directory path) = locate directory ++ Path.segments path := by
  rw [locate, Path.segments_append, List.foldl_append, foldl_descend_of_isName hnames, startOf,
    Path.isAbsolute_append hrelative]
  rfl

/-- What has a name in a directory can be told if the name is not too long. -/
theorem child?_eq_ok_iff {t : FileTree} {l : Location} {name : List Char} {n : Option FileNode} :
    t.child? l name = .ok n ↔
      (String.ofList name).utf8ByteSize ≤ 255 ∧ t.node? (l ++ [name]) = n := by
  unfold child?
  split
  · rename_i hlong
    exact iff_of_false (by simp [throw, throwThe, MonadExceptOf.throw]) fun h => absurd h.1 (by omega)
  · rename_i hshort
    simp [pure, Except.pure, Nat.le_of_not_gt hshort]

/-- A segment that means nothing stays where it is, a double dot goes up, and a name goes to a
directory that exists. -/
theorem enter_eq_ok_iff {t : FileTree} {l next : Location} {segment : List Char} :
    t.enter l segment = .ok next ↔
      (Path.isVoid segment = true ∧ next = l) ∨
      (Path.isVoid segment = false ∧ next = descend l segment ∧
        (segment ≠ ['.', '.'] → t.child? l segment = .ok (some .directory))) := by
  unfold enter descend
  cases Path.isVoid segment with
  | true => simp [pure, Except.pure, eq_comm]
  | false =>
    by_cases hdots : segment = ['.', '.']
    · simp [hdots, pure, Except.pure, eq_comm]
    · cases hchild : t.child? l segment with
      | error e => simp [hdots, bind, Except.bind]
      | ok found =>
        rcases found with _ | _ | text
        · simp [hdots, bind, Except.bind, throw, throwThe, MonadExceptOf.throw]
        · simp [hdots, bind, Except.bind, pure, Except.pure, eq_comm]
        · simp [hdots, bind, Except.bind, throw, throwThe, MonadExceptOf.throw]

/-- A walk goes step by step. -/
theorem walk_cons_eq_ok_iff {t : FileTree} {l last : Location} {segment : List Char}
    {rest : List (List Char)} : t.walk l (segment :: rest) = .ok last ↔
      ∃ next, t.enter l segment = .ok next ∧ t.walk next rest = .ok last := by
  rw [walk, List.foldlM_cons]
  cases t.enter l segment with
  | error e => simp [bind, Except.bind]
  | ok next => simp [bind, Except.bind, walk]

/-- Walking leads to the same location in every tree. -/
theorem walk_eq_ok {t : FileTree} {l last : Location} {segments : List (List Char)}
    (h : t.walk l segments = .ok last) :
    last = (segments.filter fun segment => !Path.isVoid segment).foldl descend l := by
  induction segments generalizing l with
  | nil => exact (Except.ok.inj h).symm
  | cons segment rest ih =>
    obtain ⟨next, hnext, hrest⟩ := walk_cons_eq_ok_iff.1 h
    rcases enter_eq_ok_iff.1 hnext with ⟨hvoid, rfl⟩ | ⟨hvoid, rfl, _⟩
    · simpa [hvoid] using ih hrest
    · simpa [hvoid] using ih hrest

/-- The segments of a path, without empty ones at its end. -/
def steps (path : String) : List (List Char) :=
  ((Path.split path.toList).reverse.dropWhile List.isEmpty).reverse

theorem filter_dropWhile {α : Type} {keep drop : α → Bool} (h : ∀ a, drop a = true → keep a = false)
    (l : List α) : (l.dropWhile drop).filter keep = l.filter keep := by
  induction l with
  | nil => rfl
  | cons a l ih =>
    cases hdrop : drop a with
    | true => rw [List.dropWhile_cons_of_pos hdrop, ih, List.filter_cons_of_neg (by simp [h a hdrop])]
    | false => rw [List.dropWhile_cons_of_neg (by simp [hdrop])]

/-- The segments of a path are its steps but those that mean nothing. -/
theorem segments_eq_filter_steps (path : String) :
    Path.segments path = (steps path).filter fun segment => !Path.isVoid segment := by
  have hempty (segment : List Char) (h : segment.isEmpty = true) :
      (!Path.isVoid segment) = false := by
    simp [Path.isVoid, h]
  rw [steps, List.filter_reverse, filter_dropWhile hempty, List.filter_reverse, List.reverse_reverse,
    Path.segments_eq]

/-- A path is followed by walking through all but the last of its segments. -/
theorem destination_eq_ok_iff {t : FileTree} {path : String} {d : Destination} :
    t.destination path = .ok d ↔
      checkPath path = .ok () ∧ t.walk (startOf path) (steps path).dropLast = .ok d.directory ∧
        d.last = (steps path).getLast?.getD [] ∧
        d.closed = decide ((steps path).length < (Path.split path.toList).length) := by
  have hdestination : t.destination path =
      (do
        checkPath path
        let directory ← t.walk (startOf path) (steps path).dropLast
        pure ⟨directory, (steps path).getLast?.getD [],
          (steps path).length < (Path.split path.toList).length⟩) := rfl
  obtain ⟨directory, last, closed⟩ := d
  rw [hdestination]
  cases checkPath path with
  | error e => simp [bind, Except.bind]
  | ok =>
    cases t.walk (startOf path) (steps path).dropLast with
    | error e => simp [bind, Except.bind]
    | ok found => simp [bind, Except.bind, pure, Except.pure, eq_comm]

/-- A path that can be followed up to a name leads to its location. -/
theorem append_last_eq_locate {t : FileTree} {path : String} {d : Destination}
    (h : t.destination path = .ok d) (hname : Path.isName d.last = true) :
    d.directory ++ [d.last] = locate path := by
  obtain ⟨_, hwalk, hlast, _⟩ := destination_eq_ok_iff.1 h
  have hvoid : Path.isVoid d.last = false := by
    rw [Path.isName, Bool.and_eq_true] at hname
    simpa using hname.1
  have hsteps : steps path = (steps path).dropLast ++ [d.last] := by
    cases hend : (steps path).getLast? with
    | none =>
      rw [hlast, hend] at hvoid
      simp [Path.isVoid] at hvoid
    | some last =>
      rw [hend, Option.getD_some] at hlast
      obtain ⟨before, hbefore⟩ := List.getLast?_eq_some_iff.1 hend
      rw [hlast, hbefore, List.dropLast_concat]
  rw [locate, segments_eq_filter_steps, hsteps, List.filter_append, List.foldl_append,
    ← walk_eq_ok hwalk, List.filter_cons_of_pos (by simp [hvoid])]
  simp [descend, (Path.isName_iff.1 hname).2.2]

/-! ## Trees that keep what was there -/

/-- Whether a tree keeps the directories of another one, and has the same files except at some
locations. -/
structure Keeps (before after : FileTree) (written : List Location) : Prop where
  directory : ∀ l, before.node? l = some .directory → after.node? l = some .directory
  file : ∀ l, l ∉ written → ∀ text,
    after.node? l = some (.file text) ↔ before.node? l = some (.file text)

/-- A location that is no directory is none that walks start from. -/
theorem isStart_eq_false {t : FileTree} {l : Location} (h : t.node? l ≠ some .directory) :
    isStart l = false := by
  cases hstart : isStart l with
  | false => rfl
  | true => exact absurd (by rw [node?, if_pos hstart]) h

namespace Keeps

variable {before between after : FileTree} {written more : List Location}

theorem refl (t : FileTree) (written : List Location) : Keeps t t written where
  directory _ h := h
  file _ _ _ := .rfl

theorem mono (h : Keeps before after written) (hmore : written ⊆ more) :
    Keeps before after more where
  directory := h.directory
  file l hl := h.file l fun hmem => hl (hmore hmem)

theorem trans (first : Keeps before between written) (second : Keeps between after written) :
    Keeps before after written where
  directory l h := second.directory l (first.directory l h)
  file l hl text := (second.file l hl text).trans (first.file l hl text)

/-- Where nothing was, a directory can be made. -/
theorem put_directory {t : FileTree} {l : Location} (h : t.node? l = none) (written : List Location) :
    Keeps t (t.put l .directory) written := by
  have hstart : isStart l = false := isStart_eq_false (t := t) (by simp [h])
  refine ⟨?_, ?_⟩
  · intro other hother
    rw [node?_put t hstart]
    split
    · rfl
    · exact hother
  · intro other _ text
    rw [node?_put t hstart]
    split
    · rename_i heq
      simp [← heq, h]
    · rfl

/-- Where no directory was, a file can be written. -/
theorem put_file {t : FileTree} {l : Location} (h : t.node? l ≠ some .directory)
    (hl : l ∈ written) (text : String) : Keeps t (t.put l (.file text)) written := by
  have hstart : isStart l = false := isStart_eq_false h
  refine ⟨?_, ?_⟩
  · intro other hother
    have hne : l ≠ other := fun heq => h (heq ▸ hother)
    rw [node?_put t hstart, if_neg hne, hother]
  · intro other hother _
    have hne : l ≠ other := fun heq => hother (heq ▸ hl)
    rw [node?_put t hstart, if_neg hne]

/-- Directories stay where they are. -/
theorem child?_directory (h : Keeps before after written) {l : Location} {name : List Char}
    (hchild : before.child? l name = .ok (some .directory)) :
    after.child? l name = .ok (some .directory) := by
  obtain ⟨hlength, hnode⟩ := child?_eq_ok_iff.1 hchild
  exact child?_eq_ok_iff.2 ⟨hlength, h.directory _ hnode⟩

/-- A walk through directories still leads to the same place. -/
theorem walk (h : Keeps before after written) {l last : Location} {segments : List (List Char)}
    (hlast : before.walk l segments = .ok last) : after.walk l segments = .ok last := by
  induction segments generalizing l with
  | nil => exact hlast
  | cons segment rest ih =>
    obtain ⟨next, hnext, hrest⟩ := walk_cons_eq_ok_iff.1 hlast
    refine walk_cons_eq_ok_iff.2 ⟨next, ?_, ih hrest⟩
    rw [enter_eq_ok_iff] at hnext ⊢
    refine hnext.imp_right ?_
    rintro ⟨hvoid, rfl, hchild⟩
    exact ⟨hvoid, rfl, fun hdots => h.child?_directory (hchild hdots)⟩

/-- A path still leads to the same destination. -/
theorem destination (h : Keeps before after written) {path : String} {d : Destination}
    (hd : before.destination path = .ok d) : after.destination path = .ok d := by
  rw [destination_eq_ok_iff] at hd ⊢
  exact ⟨hd.1, h.walk hd.2.1, hd.2.2⟩

end Keeps

/-! ## Operations -/

/-- A file can be read exactly if its path leads to a file by its name. -/
theorem readText_eq_ok_iff {t : FileTree} {path text : String} :
    t.readText path = .ok text ↔
      ∃ d, t.destination path = .ok d ∧ Path.isName d.last = true ∧ d.closed = false ∧
        t.child? d.directory d.last = .ok (some (.file text)) := by
  unfold readText
  cases hd : t.destination path with
  | error e => simp [bind, Except.bind]
  | ok d =>
    cases hname : Path.isName d.last with
    | false => simp [hname, bind, Except.bind, throw, throwThe, MonadExceptOf.throw]
    | true =>
      cases hchild : t.child? d.directory d.last with
      | error e => simp [hname, hchild, bind, Except.bind]
      | ok n =>
        rcases n with _ | _ | found
        · simp [hname, hchild, bind, Except.bind, throw, throwThe, MonadExceptOf.throw]
        · simp [hname, hchild, bind, Except.bind, throw, throwThe, MonadExceptOf.throw]
        · cases hclosed : d.closed with
          | true =>
            simp [hname, hchild, hclosed, bind, Except.bind, throw, throwThe, MonadExceptOf.throw]
          | false => simp [hname, hchild, hclosed, bind, Except.bind, pure, Except.pure]

/-- A text is written to the location of its path, unless a directory is there. -/
theorem writeText_eq_ok_iff {t after : FileTree} {path text : String} :
    t.writeText path text = .ok after ↔
      ∃ d n, t.destination path = .ok d ∧ Path.isName d.last = true ∧ d.closed = false ∧
        t.child? d.directory d.last = .ok n ∧ n ≠ some .directory ∧
        after = t.put (d.directory ++ [d.last]) (.file text) := by
  unfold writeText
  cases hd : t.destination path with
  | error e => simp [bind, Except.bind]
  | ok d =>
    cases hname : Path.isName d.last && !d.closed with
    | false =>
      refine iff_of_false (by simp [hname, bind, Except.bind, throw, throwThe, MonadExceptOf.throw]) ?_
      rintro ⟨_, _, hsame, hn, hc, _⟩
      obtain rfl := Except.ok.inj hsame
      simp [hn, hc] at hname
    | true =>
      obtain ⟨hlast, hopen⟩ := Bool.and_eq_true_iff.1 hname
      have hclosed : d.closed = false := by simpa using hopen
      cases hchild : t.child? d.directory d.last with
      | error e => simp [hlast, hclosed, hchild, bind, Except.bind]
      | ok n =>
        rcases n with _ | _ | found
        · simpa [hlast, hclosed, hchild, bind, Except.bind, pure, Except.pure] using eq_comm
        · simp [hlast, hclosed, hchild, bind, Except.bind, throw, throwThe, MonadExceptOf.throw]
        · simpa [hlast, hclosed, hchild, bind, Except.bind, pure, Except.pure] using eq_comm

/-- A directory is made at the location of its path, if nothing is there. -/
theorem makeDirectory_eq_ok_iff {t after : FileTree} {path : String} :
    t.makeDirectory path = .ok after ↔
      ∃ d, t.destination path = .ok d ∧ Path.isName d.last = true ∧
        t.child? d.directory d.last = .ok none ∧
        after = t.put (d.directory ++ [d.last]) .directory := by
  unfold makeDirectory
  cases hd : t.destination path with
  | error e => simp [bind, Except.bind]
  | ok d =>
    cases hname : Path.isName d.last with
    | false => simp [hname, bind, Except.bind, throw, throwThe, MonadExceptOf.throw]
    | true =>
      cases hchild : t.child? d.directory d.last with
      | error e => simp [hname, hchild, bind, Except.bind]
      | ok n =>
        cases n with
        | none => simpa [hname, hchild, bind, Except.bind, pure, Except.pure] using eq_comm
        | some found =>
          simp [hname, hchild, bind, Except.bind, throw, throwThe, MonadExceptOf.throw]

/-- Making a directory changes no file and no directory that was there. -/
theorem keeps_makeDirectory {t after : FileTree} {path : String}
    (h : t.makeDirectory path = .ok after) (written : List Location) : t.Keeps after written := by
  obtain ⟨d, _, _, hchild, rfl⟩ := makeDirectory_eq_ok_iff.1 h
  exact .put_directory (child?_eq_ok_iff.1 hchild).2 written

/-- Writing a file changes nothing but what its path leads to. -/
theorem keeps_writeText {t after : FileTree} {path text : String}
    (h : t.writeText path text = .ok after) : t.Keeps after [locate path] := by
  obtain ⟨d, n, hd, hname, _, hchild, hn, rfl⟩ := writeText_eq_ok_iff.1 h
  refine .put_file ?_ (by simp [append_last_eq_locate hd hname]) text
  rw [(child?_eq_ok_iff.1 hchild).2]
  exact hn

/-- A text that is written is read back. -/
theorem readText_writeText {t after : FileTree} {path text : String}
    (h : t.writeText path text = .ok after) : after.readText path = .ok text := by
  have hkeeps := keeps_writeText h
  obtain ⟨d, n, hd, hname, hclosed, hchild, hn, rfl⟩ := writeText_eq_ok_iff.1 h
  obtain ⟨hlength, hnode⟩ := child?_eq_ok_iff.1 hchild
  have hstart : isStart (d.directory ++ [d.last]) = false := isStart_eq_false (hnode ▸ hn)
  refine readText_eq_ok_iff.2 ⟨d, hkeeps.destination hd, hname, hclosed, ?_⟩
  rw [child?_eq_ok_iff, node?_put t hstart, if_pos rfl]
  exact ⟨hlength, rfl⟩

/-- A text that is read stays readable as long as its location is kept. -/
theorem Keeps.readText {before after : FileTree} {written : List Location}
    (h : Keeps before after written) {path text : String} (hpath : locate path ∉ written)
    (hread : before.readText path = .ok text) : after.readText path = .ok text := by
  obtain ⟨d, hd, hname, hclosed, hchild⟩ := readText_eq_ok_iff.1 hread
  refine readText_eq_ok_iff.2 ⟨d, h.destination hd, hname, hclosed, ?_⟩
  rw [child?_eq_ok_iff] at hchild ⊢
  rw [append_last_eq_locate hd hname] at hchild ⊢
  exact ⟨hchild.1, (h.file _ hpath text).2 hchild.2⟩

/-! ## Runs -/

/-- Whether a run keeps all directories, and all files except at some locations, whatever tree it
starts from. -/
def OnlyWrites {α : Type} (x : StateM FileTree α) (written : List Location) : Prop :=
  ∀ t, Keeps t (x.run t).2 written

/-- The steps of a run follow each other. -/
theorem run_bind {α β : Type} (x : StateM FileTree α) (f : α → StateM FileTree β) (t : FileTree) :
    (x >>= f).run t = (f (x.run t).1).run (x.run t).2 := rfl

/-- A change that succeeds gives the tree after it. -/
theorem run_change_ok {operation : FileTree → Except FileError FileTree} {t after : FileTree}
    (h : operation t = .ok after) : (change operation).run t = (.ok (), after) := by
  simp [change, modifyGet, MonadStateOf.modifyGet, StateT.modifyGet, StateT.run, h, Pure.pure]

/-- A change that fails leaves the tree as it is. -/
theorem run_change_error {operation : FileTree → Except FileError FileTree} {t : FileTree}
    {e : FileError} (h : operation t = .error e) :
    (change operation).run t = (.error e, t) := by
  simp [change, modifyGet, MonadStateOf.modifyGet, StateT.modifyGet, StateT.run, h, Pure.pure]

namespace OnlyWrites

variable {α β : Type} {x : StateM FileTree α} {f : α → StateM FileTree β}
  {written more : List Location}

theorem pure (a : α) (written : List Location) : OnlyWrites (pure a) written :=
  fun t => .refl t written

theorem bind (hx : OnlyWrites x written) (hf : ∀ a, OnlyWrites (f a) written) :
    OnlyWrites (x >>= f) written := by
  intro t
  rw [run_bind]
  exact (hx t).trans (hf _ _)

theorem mono (hx : OnlyWrites x written) (hmore : written ⊆ more) : OnlyWrites x more :=
  fun t => (hx t).mono hmore

/-- An operation writes to the locations that it does not keep. -/
theorem change {operation : FileTree → Except FileError FileTree}
    (h : ∀ t after, operation t = .ok after → Keeps t after written) :
    OnlyWrites (change operation) written := by
  intro t
  cases hoperation : operation t with
  | error e =>
    rw [run_change_error hoperation]
    exact .refl t written
  | ok after =>
    rw [run_change_ok hoperation]
    exact h t after hoperation

theorem isDirectory (path : String) (written : List Location) :
    OnlyWrites (access.isDirectory path) written :=
  fun t => .refl t written

/-- Making a directory writes to no file. -/
theorem makeDirectory (path : String) (written : List Location) :
    OnlyWrites (access.makeDirectory path) written :=
  change fun _ _ h => keeps_makeDirectory h written

/-- Writing a file writes to its location alone. -/
theorem writeText (path text : String) : OnlyWrites (access.writeText path text) [locate path] :=
  change fun _ _ h => keeps_writeText h

/-- Making sure of a directory writes to no file. -/
theorem ensureLast (path : String) (written : List Location) :
    OnlyWrites (access.ensureLast path) written := by
  refine (makeDirectory path written).bind fun made => ?_
  cases made with
  | ok => exact pure _ _
  | error e =>
    refine (isDirectory path written).bind fun found => ?_
    cases found with
    | true => exact pure _ _
    | false => exact pure _ _

/-- Making the directories of a path writes no file. -/
theorem ensureFrom (depth : Nat) (path : String) (written : List Location) :
    OnlyWrites (access.ensureFrom depth path) written := by
  induction depth generalizing path with
  | zero => exact pure _ _
  | succ depth ih =>
    rw [FileAccess.ensureFrom]
    split
    · exact pure _ _
    · refine (makeDirectory path written).bind fun made => ?_
      cases made with
      | ok => exact pure _ _
      | error e =>
        cases e with
        | notFound =>
          dsimp only
          cases Path.parent? path with
          | none => exact pure _ _
          | some above =>
            refine (ih above).bind fun made => ?_
            cases made with
            | ok => exact ensureLast path written
            | error e => exact pure _ _
        | _ =>
          refine (isDirectory path written).bind fun found => ?_
          cases found with
          | true => exact pure _ _
          | false => exact pure _ _

end OnlyWrites

end FileTree

/-! ## Writing files -/

open FileTree

/-- Writing a file changes no other one. -/
theorem OutputFile.write_onlyWrites (f : OutputFile) :
    OnlyWrites (f.write access) [locate f.path] := by
  refine OnlyWrites.bind (OnlyWrites.ensureFrom _ _ _) fun made => ?_
  cases made with
  | error e => exact .pure _ _
  | ok => exact (OnlyWrites.writeText f.path f.text).bind fun _ => .pure _ _

/-- A file that was written holds its text. -/
theorem OutputFile.readText_write {f : OutputFile} {before after : FileTree}
    (h : (f.write access).run before = (.ok (), after)) : after.readText f.path = .ok f.text := by
  rw [OutputFile.write, run_bind] at h
  generalize (access.ensureDirectory ((Path.parent? f.path).getD "")).run before = made at h
  obtain ⟨result, between⟩ := made
  cases result with
  | error e => cases congrArg Prod.fst h
  | ok =>
    dsimp only at h
    rw [run_bind] at h
    cases hwrite : between.writeText f.path f.text with
    | error e =>
      have hrun : (access.writeText f.path f.text).run between = (.error e, between) :=
        run_change_error hwrite
      rw [hrun] at h
      cases congrArg Prod.fst h
    | ok next =>
      have hrun : (access.writeText f.path f.text).run between = (.ok (), next) :=
        run_change_ok hwrite
      rw [hrun] at h
      obtain rfl : next = after := congrArg Prod.snd h
      exact readText_writeText hwrite

/-- Writing files changes no file at other locations, even if it fails. -/
theorem writeAll_onlyWrites (files : List OutputFile) :
    OnlyWrites (writeAll access files) (files.map fun f => locate f.path) := by
  induction files with
  | nil => exact .pure _ _
  | cons f rest ih =>
    rw [writeAll, List.map_cons]
    refine ((f.write_onlyWrites).mono (by simp)).bind fun written => ?_
    cases written with
    | error e => exact .pure _ _
    | ok => exact ih.mono (List.subset_cons_self _ _)

/-- Files are written one after the other. -/
theorem writeAll_cons_eq_ok {f : OutputFile} {rest : List OutputFile} {before after : FileTree}
    (h : (writeAll access (f :: rest)).run before = (.ok (), after)) :
    ∃ between, (f.write access).run before = (.ok (), between) ∧
      (writeAll access rest).run between = (.ok (), after) := by
  rw [writeAll, run_bind] at h
  generalize hwrite : (f.write access).run before = written at h
  obtain ⟨result, between⟩ := written
  cases result with
  | error e => cases congrArg Prod.fst h
  | ok => exact ⟨between, rfl, h⟩

/-- After a run, a file holds the last text that was written to its location. -/
theorem readText_of_writeAll {earlier later : List OutputFile} {f : OutputFile}
    {before after : FileTree}
    (h : (writeAll access (earlier ++ f :: later)).run before = (.ok (), after))
    (hlast : ∀ g ∈ later, locate g.path ≠ locate f.path) : after.readText f.path = .ok f.text := by
  induction earlier generalizing before with
  | nil =>
    obtain ⟨between, hwrite, hrest⟩ := writeAll_cons_eq_ok h
    have hkeeps := writeAll_onlyWrites later between
    rw [hrest] at hkeeps
    refine hkeeps.readText ?_ (OutputFile.readText_write hwrite)
    intro hmem
    obtain ⟨g, hg, hsame⟩ := List.mem_map.1 hmem
    exact hlast g hg hsame
  | cons e earlier ih =>
    obtain ⟨between, _, hrest⟩ := writeAll_cons_eq_ok h
    exact ih hrest

end StyleObjects
