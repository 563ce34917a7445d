import Mathlib.Data.Prod.Basic
import StyleObjects.Proofs.FileChanges

/-!
# What a run writes for its sheets

All names of sheets are checked before anything is written, and a good name leads to a file inside of
the output directory, and so does the name of its map file.  The files are written one after the
other, so a file that leads to the same place as an earlier one takes it over.

Main results:

- `SheetSet.outputs_eq_ok_iff`, `SheetSet.outputs_of_bad`: what is written, or which name is reported.
- `SheetSet.exists_inner`: every file lies inside of the output directory.
- `SheetSet.write_staysInside`: bad names stop a run before it starts, and no other run leaves the
  directory.
- `SheetSet.readText_of_write`: a file holds the text of its sheet, unless a later file of the same
  run leads to the same place.
-/

namespace StyleObjects

/-! ## Names -/

/-- Exactly the names that lead inside pass the check. -/
theorem checkSheetName_eq_ok_iff {name : String} :
    checkSheetName name = .ok () ↔ Path.isInside name = true := by
  unfold checkSheetName
  split
  · rename_i h
    exact iff_of_true rfl h
  · rename_i h
    exact iff_of_false (by simp [throw, throwThe, MonadExceptOf.throw]) h

/-- A name that does not pass the check is reported. -/
theorem checkSheetName_of_not_ok {name : String} (h : checkSheetName name ≠ .ok ()) :
    checkSheetName name = .error ⟨name⟩ := by
  rw [Ne, checkSheetName_eq_ok_iff] at h
  rw [checkSheetName, if_neg h]
  rfl

/-- All names pass the check together if each does. -/
theorem forM_check_eq_ok_iff {l : List (Sheet × String)} :
    (l.forM fun e => checkSheetName e.2) = .ok () ↔ ∀ e ∈ l, checkSheetName e.2 = .ok () := by
  induction l with
  | nil => simp [pure, Except.pure]
  | cons e l ih =>
    rw [List.forM_eq_forM, List.forM_cons, List.forall_mem_cons, ← ih, List.forM_eq_forM]
    cases checkSheetName e.2 with
    | error bad => simp [bind, Except.bind]
    | ok => simp [bind, Except.bind]

/-- The first bad name is reported. -/
theorem forM_check_of_bad {earlier later : List (Sheet × String)} {e : Sheet × String}
    (hearlier : ∀ e ∈ earlier, checkSheetName e.2 = .ok ()) (h : checkSheetName e.2 ≠ .ok ()) :
    ((earlier ++ e :: later).forM fun e => checkSheetName e.2) = .error ⟨e.2⟩ := by
  induction earlier with
  | nil =>
    rw [List.nil_append, List.forM_eq_forM, List.forM_cons, checkSheetName_of_not_ok h]
    rfl
  | cons first earlier ih =>
    rw [List.forall_mem_cons] at hearlier
    rw [List.cons_append, List.forM_eq_forM, List.forM_cons, hearlier.1]
    exact ih hearlier.2

/-! ## Files -/

/-- The ending of the name of a map file. -/
def mapEnding : String := ".map.json"

namespace SheetSet

variable {s : SheetSet} {directory : String} {maps : Bool}

/-- The names of the files of some sheets. -/
def fileNames (s : SheetSet) (maps : Bool) : List String :=
  s.named.flatMap fun e => e.2 :: if maps then [e.2 ++ mapEnding] else []

/-- The files of some sheets, in the order in which they are written. -/
def files (s : SheetSet) (directory : String) (maps : Bool) : List OutputFile :=
  s.named.flatMap fun e => e.1.outputs e.2 directory maps

/-- Files are written under their names in the directory. -/
theorem map_path_files (s : SheetSet) (directory : String) (maps : Bool) :
    (s.files directory maps).map OutputFile.path =
      (s.fileNames maps).map (Path.append directory) := by
  rw [files, fileNames, List.map_flatMap, List.map_flatMap]
  congr 1
  funext e
  cases maps <;> rfl

/-- Whether the names of all sheets are good. -/
def HasGoodNames (s : SheetSet) : Prop :=
  ∀ e ∈ s.named, checkSheetName e.2 = .ok ()

/-- If all names are good, every file is written. -/
theorem outputs_eq_ok_iff {files : List OutputFile} :
    s.outputs directory maps = .ok files ↔ s.HasGoodNames ∧ files = s.files directory maps := by
  rw [HasGoodNames, ← forM_check_eq_ok_iff, outputs, SheetSet.files]
  cases s.named.forM fun e => checkSheetName e.2 with
  | error e => simp [bind, Except.bind]
  | ok => simpa [bind, Except.bind, pure, Except.pure] using eq_comm

/-- The first bad name is reported. -/
theorem outputs_of_bad {earlier later : List (Sheet × String)} {sheet : Sheet} {name : String}
    (hnamed : s.named = earlier ++ (sheet, name) :: later)
    (hearlier : ∀ e ∈ earlier, checkSheetName e.2 = .ok ()) (hname : checkSheetName name ≠ .ok ()) :
    s.outputs directory maps = .error ⟨name⟩ := by
  have hcheck : (s.named.forM fun e => checkSheetName e.2) = .error ⟨name⟩ :=
    hnamed ▸ forM_check_of_bad (e := (sheet, name)) hearlier hname
  rw [outputs, hcheck]
  rfl

/-- The name of a file is that of a sheet, or that with the ending of the maps. -/
theorem mem_fileNames {name : String} (h : name ∈ s.fileNames maps) :
    ∃ e ∈ s.named, name = e.2 ∨ name = e.2 ++ mapEnding := by
  obtain ⟨e, he, hname⟩ := List.mem_flatMap.1 h
  refine ⟨e, he, ?_⟩
  rcases List.mem_cons.1 hname with hname | hname
  · exact .inl hname
  · cases maps with
    | true => exact .inr (List.mem_singleton.1 hname)
    | false => simp at hname

/-- The names of files lead from the output directory to something inside of it. -/
theorem HasGoodNames.inner (h : s.HasGoodNames) {name : String} (hname : name ∈ s.fileNames maps) :
    Path.isAbsolute name = false ∧ Path.Inner (Path.segments name) := by
  obtain ⟨e, he, hname⟩ := mem_fileNames hname
  have hinside : Path.isInside e.2 = true := checkSheetName_eq_ok_iff.1 (h e he)
  have hrelative : Path.isAbsolute e.2 = false := by
    simpa [Path.isAbsolute] using (Path.isInside_iff.1 hinside).1
  rcases hname with rfl | rfl
  · exact ⟨hrelative, Path.inner_segments hinside⟩
  · exact ⟨Path.isAbsolute_ending hrelative (by decide),
      Path.inner_segments_append hinside (by decide) (by decide)⟩

/-- Every file lies inside of the output directory, as a path and in every tree. -/
theorem HasGoodNames.exists_inner (h : s.HasGoodNames) {f : OutputFile}
    (hf : f ∈ s.files directory maps) :
    Path.isAbsolute f.path = Path.isAbsolute directory ∧
      ∃ names, Path.Inner names ∧ Path.segments f.path = Path.segments directory ++ names ∧
        FileTree.locate f.path = FileTree.locate directory ++ names := by
  have hpath : f.path ∈ (s.files directory maps).map OutputFile.path := List.mem_map_of_mem hf
  rw [map_path_files] at hpath
  obtain ⟨name, hname, hpath⟩ := List.mem_map.1 hpath
  obtain ⟨hrelative, hinner⟩ := h.inner hname
  rw [← hpath]
  exact ⟨Path.isAbsolute_append hrelative directory, Path.segments name, hinner,
    Path.segments_append directory name, FileTree.locate_append hrelative hinner.isName directory⟩

/-! ## Runs -/

/-- A bad name stops a run before it starts: nothing is asked of the file system. -/
theorem write_of_bad {earlier later : List (Sheet × String)} {sheet : Sheet} {name : String}
    (hnamed : s.named = earlier ++ (sheet, name) :: later)
    (hearlier : ∀ e ∈ earlier, checkSheetName e.2 = .ok ()) (hname : checkSheetName name ≠ .ok ())
    {m : Type → Type} [Monad m] (fs : FileAccess m) :
    s.write fs directory maps = pure (.error (.badName ⟨name⟩)) := by
  rw [write, outputs_of_bad hnamed hearlier hname]

/-- With good names, a run writes its files one after the other. -/
theorem write_of_good (h : s.HasGoodNames) {m : Type → Type} [Monad m] (fs : FileAccess m) :
    s.write fs directory maps = do
      return (← writeAll fs (s.files directory maps)).map fun _ =>
        (s.files directory maps).map OutputFile.path := by
  rw [write, outputs_eq_ok_iff.2 ⟨h, rfl⟩]

/-- A run that succeeds has written all files. -/
theorem write_eq_ok {before after : FileTree} {paths : List String}
    (h : (s.write FileTree.access directory maps).run before = (.ok paths, after)) :
    s.HasGoodNames ∧ paths = (s.files directory maps).map OutputFile.path ∧
      (writeAll FileTree.access (s.files directory maps)).run before = (.ok (), after) := by
  cases houtputs : s.outputs directory maps with
  | error e =>
    rw [write, houtputs] at h
    cases congrArg Prod.fst h
  | ok files =>
    obtain ⟨hgood, rfl⟩ := outputs_eq_ok_iff.1 houtputs
    rw [write_of_good hgood, FileTree.run_bind] at h
    generalize hrun : (writeAll FileTree.access (s.files directory maps)).run before = result at h
    obtain ⟨written, last⟩ := result
    cases written with
    | error e => cases congrArg Prod.fst h
    | ok =>
      obtain ⟨hpaths, rfl⟩ := Prod.mk.inj h
      exact ⟨hgood, (Except.ok.inj hpaths).symm, rfl⟩

/-- Whatever the outcome of a run, it changes no file outside of the output directory. -/
theorem write_onlyWrites (s : SheetSet) (directory : String) (maps : Bool) (h : s.HasGoodNames) :
    FileTree.OnlyWrites (s.write FileTree.access directory maps)
      ((s.files directory maps).map fun f => FileTree.locate f.path) := by
  rw [write_of_good h]
  exact (writeAll_onlyWrites _).bind fun _ => .pure _ _

/-- The check accepts a name that does not start with a slash, has no double dot among its segments,
and has a segment that means something.  If a name of some sheets is rejected, then the first such
name is reported and nothing is asked of the file system.  Otherwise the paths of all files, written
one after the other, extend the path of the output directory by names, and whatever the outcome, no
file outside of the directory is changed in any tree. -/
theorem write_staysInside :
    (∀ name, checkSheetName name = .ok () ↔
      name.toList.head? ≠ some '/' ∧ ['.', '.'] ∉ name.toList.splitOn '/' ∧
        ∃ segment ∈ name.toList.splitOn '/', segment ≠ [] ∧ segment ≠ ['.']) ∧
    ∀ (s : SheetSet) (directory : String) (maps : Bool),
      (∀ earlier sheet name later, s.named = earlier ++ (sheet, name) :: later →
        (∀ e ∈ earlier, checkSheetName e.2 = .ok ()) → checkSheetName name ≠ .ok () →
        ∀ {m : Type → Type} [Monad m] (fs : FileAccess m),
          s.write fs directory maps = pure (.error (.badName ⟨name⟩))) ∧
      (s.HasGoodNames →
        (∀ {m : Type → Type} [Monad m] (fs : FileAccess m),
          s.write fs directory maps = do
            return (← writeAll fs (s.files directory maps)).map fun _ =>
              (s.files directory maps).map OutputFile.path) ∧
        (∀ f ∈ s.files directory maps,
          Path.isAbsolute f.path = Path.isAbsolute directory ∧
            ∃ names, Path.Inner names ∧
              Path.segments f.path = Path.segments directory ++ names) ∧
        ∀ (before : FileTree) (l : Location) (text : String),
          (∀ names, Path.Inner names → l ≠ FileTree.locate directory ++ names) →
          (((s.write FileTree.access directory maps).run before).2.node? l = some (.file text) ↔
            before.node? l = some (.file text))) := by
  refine ⟨fun name => checkSheetName_eq_ok_iff.trans Path.isInside_iff, ?_⟩
  intro s directory maps
  refine ⟨fun earlier sheet name later hnamed hearlier hname _ _ fs =>
    write_of_bad hnamed hearlier hname fs, ?_⟩
  intro hgood
  refine ⟨fun fs => write_of_good hgood fs, ?_, ?_⟩
  · intro f hf
    obtain ⟨habsolute, names, hinner, hsegments, _⟩ := hgood.exists_inner hf
    exact ⟨habsolute, names, hinner, hsegments⟩
  · intro before l text hl
    refine (write_onlyWrites s directory maps hgood before).file l ?_ text
    intro hwritten
    obtain ⟨f, hf, hsame⟩ := List.mem_map.1 hwritten
    obtain ⟨_, names, hinner, _, hlocation⟩ := hgood.exists_inner hf
    exact hl names hinner (hsame.symm.trans hlocation)

/-- Two sheets, of which one has no name and the other is named in an unusual spelling. -/
def writtenSample : SheetSet :=
  .many [⟨some "", ".a", [("a", ".a")], [(".a", "a")]⟩, ⟨some "theme//./dark.css", "", [], []⟩]

/-- Sheets of which the second and the third are named for files outside of every directory. -/
def escapingSample : SheetSet :=
  .many [⟨some "ok.css", "", [], []⟩, ⟨some "theme/../../x.css", "", [], []⟩,
    ⟨some "/x.css", "", [], []⟩]

theorem write_staysInside_sample :
    escapingSample.write FileTree.access "out" true =
        pure (.error (.badName ⟨"theme/../../x.css"⟩)) ∧
      writtenSample.HasGoodNames ∧
      ∀ f ∈ writtenSample.files "/tmp/" true, ∃ names, Path.Inner names ∧
        Path.segments f.path = Path.segments "/tmp/" ++ names := by
  have hgood : writtenSample.HasGoodNames := by
    unfold HasGoodNames
    decide +kernel
  obtain ⟨hbad, _⟩ := write_staysInside.2 escapingSample "out" true
  obtain ⟨_, hfiles⟩ := write_staysInside.2 writtenSample "/tmp/" true
  refine ⟨?_, hgood, fun f hf => ((hfiles hgood).2.1 f hf).2⟩
  exact hbad [(⟨some "ok.css", "", [], []⟩, "ok.css")] ⟨some "theme/../../x.css", "", [], []⟩
    "theme/../../x.css" [(⟨some "/x.css", "", [], []⟩, "/x.css")] (by decide +kernel)
    (by decide +kernel) (by decide +kernel) FileTree.access

/-! ## The last file for a place -/

/-- After a run that succeeds, every file holds its text, unless a later one leads to the same place.
So if no two names of files lead to the same place, then every sheet is found in its file, and its maps
in theirs. -/
theorem readText_of_write {s : SheetSet} {directory : String} {maps : Bool} {before after : FileTree}
    {paths : List String}
    (h : (s.write FileTree.access directory maps).run before = (.ok paths, after)) :
    paths = (s.files directory maps).map OutputFile.path ∧
    (∀ earlier f later, s.files directory maps = earlier ++ f :: later →
      (∀ g ∈ later, Path.segments g.path ≠ Path.segments f.path) →
      after.readText f.path = .ok f.text) ∧
    ((s.fileNames maps).Pairwise (fun a b => Path.segments a ≠ Path.segments b) →
      ∀ e ∈ s.named,
        after.readText (Path.append directory e.2) = .ok (e.1.css ++ "\n") ∧
        (maps = true → after.readText (Path.append directory (e.2 ++ mapEnding)) =
          .ok e.1.mapsJson.pretty)) := by
  obtain ⟨hgood, hpaths, hrun⟩ := write_eq_ok h
  have hlast (earlier : List OutputFile) (f : OutputFile) (later : List OutputFile)
      (hfiles : s.files directory maps = earlier ++ f :: later)
      (hlater : ∀ g ∈ later, Path.segments g.path ≠ Path.segments f.path) :
      after.readText f.path = .ok f.text := by
    rw [hfiles] at hrun
    refine readText_of_writeAll hrun ?_
    intro g hg hsame
    obtain ⟨_, names, _, hsegments, hlocation⟩ :=
      hgood.exists_inner (hfiles ▸ List.mem_append_right _ List.mem_cons_self)
    obtain ⟨_, others, _, hsegments', hlocation'⟩ :=
      hgood.exists_inner
        (hfiles ▸ List.mem_append_right _ (List.mem_cons_of_mem _ hg))
    rw [hlocation, hlocation', List.append_cancel_left_eq] at hsame
    exact hlater g hg (by rw [hsegments, hsegments', hsame])
  refine ⟨hpaths, hlast, ?_⟩
  intro hdistinct
  have hpairwise : (s.files directory maps).Pairwise
      fun f g => Path.segments f.path ≠ Path.segments g.path := by
    rw [← List.pairwise_map (f := OutputFile.path) (R := fun a b => Path.segments a ≠ Path.segments b),
      map_path_files, List.pairwise_map]
    refine hdistinct.imp ?_
    intro a b hne hsame
    rw [Path.segments_append, Path.segments_append, List.append_cancel_left_eq] at hsame
    exact hne hsame
  have hfile : ∀ f ∈ s.files directory maps, after.readText f.path = .ok f.text := by
    intro f hf
    obtain ⟨earlier, later, hfiles⟩ := List.append_of_mem hf
    refine hlast earlier f later hfiles ?_
    intro g hg
    rw [hfiles] at hpairwise
    exact ((List.pairwise_cons.1 (List.pairwise_append.1 hpairwise).2.1).1 g hg).symm
  intro e he
  constructor
  · refine hfile ⟨_, _⟩ (List.mem_flatMap.2 ⟨e, he, ?_⟩)
    exact List.mem_cons_self
  · rintro rfl
    refine hfile ⟨_, _⟩ (List.mem_flatMap.2 ⟨e, he, ?_⟩)
    exact List.mem_cons_of_mem _ List.mem_cons_self

/-- A tree with a file of an earlier run. -/
def treeSample : FileTree where
  nodes := [(["out".toList], .directory), (["out".toList, "style-0.css".toList], .file "old")]

theorem readText_of_write_sample :
    let run := (writtenSample.write FileTree.access "out" true).run treeSample
    run.1 = .ok ["out/style-0.css", "out/style-0.css.map.json", "out/theme//./dark.css",
        "out/theme//./dark.css.map.json"] ∧
      run.2.readText (Path.append "out" "style-0.css") = .ok (".a" ++ "\n") ∧
      run.2.readText (Path.append "out" "theme//./dark.css") = .ok ("" ++ "\n") := by
  intro run
  have hpaths : run.1 = .ok ["out/style-0.css", "out/style-0.css.map.json", "out/theme//./dark.css",
      "out/theme//./dark.css.map.json"] := by
    decide +kernel
  have hrun := Prod.fst_eq_iff.1 hpaths
  have hdistinct : (writtenSample.fileNames true).Pairwise
      fun a b => Path.segments a ≠ Path.segments b := by
    decide +kernel
  have hsheets := (readText_of_write hrun).2.2 hdistinct
  have hfirst := hsheets (⟨some "", ".a", [("a", ".a")], [(".a", "a")]⟩, "style-0.css")
    (by decide +kernel)
  have hsecond := hsheets (⟨some "theme//./dark.css", "", [], []⟩, "theme//./dark.css")
    (by decide +kernel)
  exact ⟨hpaths, hfirst.1, hsecond.1⟩

/-- The name of the first sheet is the one that the second is given for its position. -/
def takenOverSample : SheetSet :=
  .many [⟨some "style-1.css", ".a", [], []⟩, ⟨none, ".b", [], []⟩]

/-- A run may succeed although a sheet is not found in its file. -/
theorem write_takesOver :
    ¬ ∀ (s : SheetSet) (directory : String) (maps : Bool) (before after : FileTree)
        (paths : List String),
      (s.write FileTree.access directory maps).run before = (.ok paths, after) →
      ∀ e ∈ s.named, after.readText (Path.append directory e.2) = .ok (e.1.css ++ "\n") := by
  intro hclaim
  have hpaths : ((takenOverSample.write FileTree.access "out" false).run .empty).1 =
      .ok ["out/style-1.css", "out/style-1.css"] := by
    decide +kernel
  have hfirst := hclaim _ _ _ _ _ _ (Prod.fst_eq_iff.1 hpaths)
    (⟨some "style-1.css", ".a", [], []⟩, "style-1.css") (by decide +kernel)
  have hfile : ((takenOverSample.write FileTree.access "out" false).run .empty).2.readText
      (Path.append "out" "style-1.css") = .ok (".b" ++ "\n") := by
    decide +kernel
  exact absurd (Except.ok.inj (hfirst.symm.trans hfile)) (by decide)

end SheetSet

end StyleObjects
