import Mathlib.Data.List.TakeWhile
import StyleObjects.Sheet.Output

/-!
# Segments of paths

Without the segments that mean nothing, a path is the list of names and double dots that it goes
through.  A relative path inside of a directory goes through names only, and through one at least;
so it does when a text without slashes is written behind it.

Main results:

- `Path.segments_append`: a relative path extends the segments of its directory.
- `Path.isInside_iff`: which paths lead to a file inside of the directory they are relative to.
- `Path.inner_segments`, `Path.inner_segments_append`: such a path goes through names only, also with
  an ending behind it.
-/

namespace StyleObjects.Path

/-! ## Splitting -/

/-- Paths are split at their slashes. -/
theorem split_eq_splitOn (s : List Char) : split s = s.splitOn '/' := by
  induction s with
  | nil => rfl
  | cons c s ih =>
    obtain ⟨first, rest, hsplit⟩ := List.exists_cons_of_ne_nil (split_ne_nil s)
    rw [split, List.splitOn_cons_eq_if_modifyHead, ← ih, hsplit]
    by_cases hc : c = '/' <;> simp [hc, consSegment]

/-- A text without slashes is one segment. -/
theorem split_of_not_mem {s : List Char} (h : '/' ∉ s) : split s = [s] := by
  rw [split_eq_splitOn, List.splitOn_eq_singleton h]

/-- A slash ends a segment. -/
theorem split_append_slash (s t : List Char) : split (s ++ '/' :: t) = split s ++ split t := by
  simp only [split_eq_splitOn, List.splitOn_append_cons_self]

/-- Segments hold no slash. -/
theorem not_mem_of_mem_split {s segment : List Char} (h : segment ∈ split s) : '/' ∉ segment := by
  induction s generalizing segment with
  | nil => simp_all [split]
  | cons c s ih =>
    obtain ⟨first, rest, hsplit⟩ := List.exists_cons_of_ne_nil (split_ne_nil s)
    rw [split] at h
    rw [hsplit] at h ih
    split at h
    · rcases List.mem_cons.1 h with rfl | h
      · exact List.not_mem_nil
      · exact ih h
    · rename_i hc
      rcases List.mem_cons.1 h with rfl | h
      · exact List.not_mem_cons_of_ne_of_not_mem (Ne.symm hc) (ih List.mem_cons_self)
      · exact ih (List.mem_cons_of_mem _ h)

/-- A text without slashes makes the last segment longer. -/
theorem exists_split_append {t : List Char} (ht : '/' ∉ t) (s : List Char) :
    ∃ before last, split s = before ++ [last] ∧ split (s ++ t) = before ++ [last ++ t] := by
  induction s with
  | nil => exact ⟨[], [], rfl, split_of_not_mem ht⟩
  | cons c s ih =>
    obtain ⟨before, last, hs, hst⟩ := ih
    rw [List.cons_append, split, split, hs, hst]
    split
    · exact ⟨[] :: before, last, rfl, rfl⟩
    · cases before with
      | nil => exact ⟨[], c :: last, rfl, rfl⟩
      | cons first before => exact ⟨(c :: first) :: before, last, rfl, rfl⟩

/-! ## Segments that mean something -/

/-- The segments of a path, without empty ones and single dots. -/
def segments (path : String) : List (List Char) :=
  (path.toList.splitOn '/').filter fun segment => !isVoid segment

/-- The segments of a path are those between slashes that mean something. -/
theorem segments_eq (path : String) :
    segments path = (split path.toList).filter fun segment => !isVoid segment := by
  rw [segments, split_eq_splitOn]

/-- Only empty segments and dots mean nothing. -/
theorem isVoid_iff {segment : List Char} : isVoid segment = true ↔ segment = [] ∨ segment = ['.'] := by
  simp [isVoid]

/-- A segment is a name unless it is empty, a dot or two dots. -/
theorem isName_iff {segment : List Char} :
    isName segment = true ↔ segment ≠ [] ∧ segment ≠ ['.'] ∧ segment ≠ ['.', '.'] := by
  simp [isName, isVoid, and_assoc]

/-- A relative path extends the segments of its directory. -/
theorem segments_append (directory path : String) :
    segments (append directory path) = segments directory ++ segments path := by
  have hslash (s : List Char) (t : List Char) :
      (split (s ++ '/' :: t)).filter (fun segment => !isVoid segment) =
        (split s).filter (fun segment => !isVoid segment) ++
          (split t).filter fun segment => !isVoid segment := by
    rw [split_append_slash, List.filter_append]
  simp only [segments_eq]
  unfold append
  split
  · rename_i hends
    rw [String.toList_append]
    rcases Bool.or_eq_true _ _ ▸ hends with hempty | hlast
    · rw [List.isEmpty_iff.1 hempty]
      rfl
    · obtain ⟨start, hstart⟩ := List.getLast?_eq_some_iff.1 (eq_of_beq hlast)
      -- The slash at the end of the directory only ends its last segment.
      have hdirectory : (split directory.toList).filter (fun segment => !isVoid segment) =
          (split start).filter fun segment => !isVoid segment := by
        rw [hstart, hslash]
        simp [split, isVoid]
      rw [hdirectory, hstart, List.append_assoc]
      exact hslash _ _
  · rw [String.toList_append, String.toList_append, List.append_assoc]
    exact hslash _ _

/-- A relative path from an absolute directory is absolute, and from a relative one relative. -/
theorem isAbsolute_append {path : String} (h : isAbsolute path = false) (directory : String) :
    isAbsolute (append directory path) = isAbsolute directory := by
  cases hdirectory : directory.toList with
  | nil =>
    have hpath : append directory path = path := by
      apply String.toList_injective
      simp [append, hdirectory]
    rw [hpath, h]
    simp [isAbsolute, hdirectory]
  | cons c s =>
    unfold append
    split <;> simp [isAbsolute, hdirectory]

/-- An ending that does not start with a slash makes no path absolute. -/
theorem isAbsolute_ending {path ending : String} (h : isAbsolute path = false)
    (hending : isAbsolute ending = false) : isAbsolute (path ++ ending) = false := by
  unfold isAbsolute at h hending ⊢
  rw [String.toList_append]
  cases hpath : path.toList with
  | nil => exact hending
  | cons c s =>
    rw [hpath] at h
    exact h

/-- Without double dots, the last segment that means something is a name. -/
theorem isSome_fileName?_iff {path : String} (h : ['.', '.'] ∉ split path.toList) :
    (fileName? path).isSome = true ↔ ∃ segment ∈ split path.toList, isVoid segment = false := by
  have hlast : (trimVoid (split path.toList)).getLast? =
      (split path.toList).reverse.find? fun segment => !isVoid segment := by
    rw [trimVoid, List.getLast?_reverse, List.find?_eq_head?_dropWhile_not]
    simp
  rw [fileName?, Option.isSome_map, hlast]
  cases hfound : (split path.toList).reverse.find? fun segment => !isVoid segment with
  | none => simpa using hfound
  | some segment =>
    have hmem : segment ∈ split path.toList :=
      List.mem_reverse.1 (List.mem_of_find?_eq_some hfound)
    have hvoid : isVoid segment = false := by simpa using List.find?_some hfound
    have hname : isName segment = true := by
      have hdots : segment ≠ ['.', '.'] := fun heq => h (heq ▸ hmem)
      simp [isName, hvoid, hdots]
    simp only [Option.filter, hname, if_true, Option.isSome_some, true_iff]
    exact ⟨segment, hmem, hvoid⟩

/-- A path leads to a file inside of the directory that it is relative to exactly if it does not
start with a slash, none of its segments is a double dot, and one of them means something. -/
theorem isInside_iff {path : String} :
    isInside path = true ↔ path.toList.head? ≠ some '/' ∧
      ['.', '.'] ∉ path.toList.splitOn '/' ∧
      ∃ segment ∈ path.toList.splitOn '/', segment ≠ [] ∧ segment ≠ ['.'] := by
  have hmeans (segment : List Char) :
      isVoid segment = false ↔ segment ≠ [] ∧ segment ≠ ['.'] := by
    rw [← Bool.not_eq_true, isVoid_iff, not_or]
  have hdots : (!(split path.toList).contains ['.', '.']) = true ↔
      ['.', '.'] ∉ split path.toList := by
    simp
  simp only [← split_eq_splitOn, isInside, Bool.and_eq_true, and_assoc, hdots]
  refine and_congr (by simp [isAbsolute]) (and_congr_right fun hnone => ?_)
  simp only [isSome_fileName?_iff hnone, hmeans]

/-! ## Inner paths -/

/-- Whether segments lead from a directory to something inside of it. -/
structure Inner (names : List (List Char)) : Prop where
  ne_nil : names ≠ []
  ordinary : ∀ segment ∈ names,
    segment ≠ [] ∧ segment ≠ ['.'] ∧ segment ≠ ['.', '.'] ∧ '/' ∉ segment

/-- The segments of an inner path are names. -/
theorem Inner.isName {names : List (List Char)} (h : Inner names) :
    ∀ segment ∈ names, isName segment = true := by
  intro segment hsegment
  obtain ⟨hempty, hdot, hdots, _⟩ := h.ordinary segment hsegment
  exact isName_iff.2 ⟨hempty, hdot, hdots⟩

/-- Segments that are not double dots are names, once those that mean nothing are left out. -/
theorem inner_filter {all : List (List Char)} (hslash : ∀ segment ∈ all, '/' ∉ segment)
    (hdots : ['.', '.'] ∉ all) (hmeans : ∃ segment ∈ all, isVoid segment = false) :
    Inner (all.filter fun segment => !isVoid segment) where
  ne_nil := by
    obtain ⟨segment, hsegment, hvoid⟩ := hmeans
    exact List.ne_nil_of_mem (List.mem_filter.2 ⟨hsegment, by simp [hvoid]⟩)
  ordinary := by
    intro segment hsegment
    obtain ⟨hmem, hvoid⟩ := List.mem_filter.1 hsegment
    simp only [isVoid, Bool.not_eq_true', Bool.or_eq_false_iff] at hvoid
    refine ⟨by simpa using hvoid.1, by simpa using hvoid.2, ?_, hslash segment hmem⟩
    exact fun heq => hdots (heq ▸ hmem)

/-- An inner path goes through names only. -/
theorem inner_segments {path : String} (h : isInside path = true) : Inner (segments path) := by
  obtain ⟨_, hdots, segment, hsegment, hempty, hdot⟩ := isInside_iff.1 h
  rw [segments]
  rw [← split_eq_splitOn] at hdots hsegment ⊢
  refine inner_filter (fun _ => not_mem_of_mem_split) hdots ⟨segment, hsegment, ?_⟩
  rw [← Bool.not_eq_true, isVoid_iff, not_or]
  exact ⟨hempty, hdot⟩

/-- With an ending of more than two characters behind it, an inner path still goes through names
only, whatever its last segment was. -/
theorem inner_segments_append {path ending : String} (h : isInside path = true)
    (hslash : '/' ∉ ending.toList) (hlength : 2 < ending.toList.length) :
    Inner (segments (path ++ ending)) := by
  obtain ⟨_, hdots, _⟩ := isInside_iff.1 h
  rw [← split_eq_splitOn] at hdots
  obtain ⟨before, last, hpath, hending⟩ := exists_split_append hslash path.toList
  have hlast (short : List Char) (hshort : short.length ≤ 2) : last ++ ending.toList ≠ short := by
    intro heq
    have hsum := congrArg List.length heq
    rw [List.length_append] at hsum
    omega
  rw [segments_eq, String.toList_append]
  refine inner_filter (fun _ => not_mem_of_mem_split) ?_ ?_
  · rw [hending, List.mem_append, List.mem_singleton, not_or]
    refine ⟨fun hmem => hdots ?_, (hlast _ (by simp)).symm⟩
    rw [hpath]
    exact List.mem_append_left _ hmem
  · refine ⟨last ++ ending.toList, by simp [hending], ?_⟩
    rw [← Bool.not_eq_true, isVoid_iff, not_or]
    exact ⟨hlast _ (by simp), hlast _ (by simp)⟩

end StyleObjects.Path
