import StyleObjects.Text.Search

/-!
# Paths

A path is a text whose segments are separated by slashes.  Empty segments and dots mean nothing,
except for an empty segment at the start, which makes the path absolute, and a dot at the start,
which is the directory that paths are relative to.
-/

namespace StyleObjects.Path

/-! ## Segments -/

/-- Puts a character in front of the first segment. -/
def consSegment (c : Char) : List (List Char) → List (List Char)
  | [] => [[c]]
  | segment :: rest => (c :: segment) :: rest

/-- The segments between slashes. -/
def split : List Char → List (List Char)
  | [] => [[]]
  | c :: s => if c = '/' then [] :: split s else consSegment c (split s)

/-- Joins segments by slashes. -/
def join (segments : List (List Char)) : List Char :=
  ['/'].intercalate segments

/-- A path has at least one segment. -/
theorem split_ne_nil (s : List Char) : split s ≠ [] := by
  cases s with
  | nil => simp [split]
  | cons c s =>
    rw [split]
    split
    · simp
    · cases h : split s <;> simp [consSegment]

/-- Whether a segment, other than the first, means nothing. -/
def isVoid (segment : List Char) : Bool :=
  segment.isEmpty || segment == ['.']

/-- Whether a segment names a file or directory. -/
def isName (segment : List Char) : Bool :=
  !isVoid segment && segment != ['.', '.']

/-- Segments without those at the end that mean nothing. -/
def trimVoid (segments : List (List Char)) : List (List Char) :=
  (segments.reverse.dropWhile isVoid).reverse

/-! ## Parts of a path -/

/-- Whether a path is absolute. -/
def isAbsolute (path : String) : Bool :=
  path.toList.head? == some '/'

/-- The last segment, if it names a file or directory. -/
def fileName? (path : String) : Option String :=
  ((trimVoid (split path.toList)).getLast?.filter isName).map String.ofList

/-- The directory that a path is in: the path without its last segment.  The empty path and the root
are in no directory. -/
def parent? (path : String) : Option String :=
  match split path.toList with
  | [] => none
  | first :: others =>
    match trimVoid others with
    | [] => if first.isEmpty then none else some ""
    | others =>
      let above := trimVoid others.dropLast
      if first.isEmpty && above.isEmpty then some "/"
      else some (String.ofList (join (first :: above)))

/-- A relative path inside of a directory. -/
def append (directory path : String) : String :=
  if directory.toList.isEmpty || directory.toList.getLast? == some '/' then directory ++ path
  else directory ++ "/" ++ path

/-- What follows the last dot of the file name.  A dot at the start of the name begins none. -/
def extension? (path : String) : Option String := do
  let name ← fileName? path
  let (after, before) := name.toList.reverse.span (· != '.')
  match before with
  | _ :: _ :: _ => some (String.ofList after.reverse)
  | _ => none

end StyleObjects.Path
