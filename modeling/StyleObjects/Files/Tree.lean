import StyleObjects.Dict
import StyleObjects.Files.Access

/-!
# File trees

A file tree is a file system held in memory: directories and text files under a root, which relative
paths start from.  Every file has one location, the names on the way to it; a path leads to a
location by way of directories that exist.

Main results:

- `node?_put`: what is put at a location is found there, and nothing else changes.
-/

namespace StyleObjects

/-- What is at a location. -/
inductive FileNode where
  | directory
  | file (text : String)
deriving DecidableEq, Repr

/-- The names on the way to a place in a tree. -/
abbrev Location := List (List Char)

/-- Files and directories by location, the latest first. -/
structure FileTree where
  nodes : List (Location × FileNode)
deriving DecidableEq, Repr

/-- The location that absolute paths start from. -/
def rootLocation : Location := [['/']]

/-- Whether a location is one that paths start from, or a directory above it.  These directories
exist in every tree. -/
def isStart (l : Location) : Bool :=
  l == rootLocation || l.all (· == ['.', '.'])

namespace FileTree

/-! ## Locations -/

/-- A tree without files. -/
def empty : FileTree := ⟨[]⟩

instance : Inhabited FileTree := ⟨empty⟩

/-- What is at a location. -/
def node? (t : FileTree) (l : Location) : Option FileNode :=
  if isStart l then some .directory else t.nodes.lookup l

/-- Puts something at a location. -/
def put (t : FileTree) (l : Location) (n : FileNode) : FileTree :=
  ⟨(l, n) :: t.nodes.filter (·.1 != l)⟩

/-- Dropping a location changes no other one. -/
theorem lookup_filter (nodes : List (Location × FileNode)) {l other : Location} (h : l ≠ other) :
    (nodes.filter (·.1 != l)).lookup other = nodes.lookup other := by
  induction nodes with
  | nil => rfl
  | cons node rest ih =>
    obtain ⟨k, n⟩ := node
    by_cases hk : k = l
    · have : (other == k) = false := by simpa [hk] using Ne.symm h
      rw [List.filter_cons_of_neg (by simp [hk]), ih, List.lookup_cons, this]
    · rw [List.filter_cons_of_pos (by simp [hk]), List.lookup_cons, List.lookup_cons, ih]

/-- What is put at a location is found there, and nothing else changes. -/
theorem node?_put (t : FileTree) {l : Location} (h : isStart l = false) (n : FileNode)
    (other : Location) : (t.put l n).node? other = if l = other then some n else t.node? other := by
  unfold node? put
  by_cases ho : l = other
  · subst ho
    simp [h]
  · have : (other == l) = false := by simpa using Ne.symm ho
    simp [ho, List.lookup_cons, this, lookup_filter t.nodes ho]

/-! ## Paths -/

/-- Whether a path can be looked up at all. -/
def checkPath (path : String) : Except FileError Unit :=
  if path.toList.contains '\x00' then throw .nulInName
  else if path.utf8ByteSize ≥ 4096 then throw .nameTooLong
  else if path.isEmpty then throw .notFound
  else pure ()

/-- What is found at a name in a directory. -/
def child? (t : FileTree) (l : Location) (name : List Char) : Except FileError (Option FileNode) :=
  if (String.ofList name).utf8ByteSize > 255 then throw .nameTooLong
  else pure (t.node? (l ++ [name]))

/-- The directory above another.  The root is above itself. -/
def above (l : Location) : Location :=
  if l = rootLocation then l
  else if isStart l then ['.', '.'] :: l
  else l.dropLast

/-- Goes from a directory to another by one segment. -/
def enter (t : FileTree) (l : Location) (segment : List Char) : Except FileError Location :=
  if Path.isVoid segment then pure l
  else if segment = ['.', '.'] then pure (above l)
  else do
    match ← t.child? l segment with
    | none => throw .notFound
    | some (.file _) => throw .notADirectory
    | some .directory => pure (l ++ [segment])

/-- Goes to a directory by some segments. -/
def walk (t : FileTree) (l : Location) (segments : List (List Char)) : Except FileError Location :=
  segments.foldlM t.enter l

/-- The location that a path starts from. -/
def startOf (path : String) : Location :=
  if Path.isAbsolute path then rootLocation else []

/-- A path that was followed up to its last segment. -/
structure Destination where
  /-- The directory that the last segment is looked up in. -/
  directory : Location
  last : List Char
  /-- Whether the path ends with a slash. -/
  closed : Bool

/-- Follows a path up to its last segment, not counting slashes at its end. -/
def destination (t : FileTree) (path : String) : Except FileError Destination := do
  checkPath path
  let segments := Path.split path.toList
  let kept := (segments.reverse.dropWhile List.isEmpty).reverse
  let directory ← t.walk (startOf path) kept.dropLast
  pure ⟨directory, kept.getLast?.getD [], kept.length < segments.length⟩

/-! ## Operations -/

/-- Reads the text of a file. -/
def readText (t : FileTree) (path : String) : Except FileError String := do
  let d ← t.destination path
  if Path.isName d.last then
    match ← t.child? d.directory d.last with
    | none => throw .notFound
    | some .directory => throw .isADirectory
    | some (.file text) => if d.closed then throw .notADirectory else pure text
  else throw .isADirectory

/-- Puts a text into a file. -/
def writeText (t : FileTree) (path text : String) : Except FileError FileTree := do
  let d ← t.destination path
  if Path.isName d.last && !d.closed then
    match ← t.child? d.directory d.last with
    | some .directory => throw .isADirectory
    | _ => pure (t.put (d.directory ++ [d.last]) (.file text))
  else throw .isADirectory

/-- Makes a directory in one that exists. -/
def makeDirectory (t : FileTree) (path : String) : Except FileError FileTree := do
  let d ← t.destination path
  if Path.isName d.last then
    match ← t.child? d.directory d.last with
    | some _ => throw .alreadyExists
    | none => pure (t.put (d.directory ++ [d.last]) .directory)
  else throw .alreadyExists

/-- Whether a path leads to a directory. -/
def isDirectory (t : FileTree) (path : String) : Bool :=
  match checkPath path with
  | .ok () => (t.walk (startOf path) (Path.split path.toList)).toBool
  | .error _ => false

/-- Applies an operation that changes a tree; if it fails, the tree stays as it is. -/
def change (operation : FileTree → Except FileError FileTree) :
    StateM FileTree (Except FileError Unit) :=
  modifyGet fun t =>
    match operation t with
    | .ok next => (.ok (), next)
    | .error e => (.error e, t)

/-- Access to the files of a tree. -/
def access : FileAccess (StateM FileTree) where
  readText path := return (← get).readText path
  writeText path text := change (·.writeText path text)
  makeDirectory path := change (·.makeDirectory path)
  isDirectory path := return (← get).isDirectory path

/-! ## Contents -/

/-- The files below the starting point of relative paths, by path, the latest first. -/
def files (t : FileTree) : List (String × String) :=
  t.nodes.filterMap fun
    | (l, .file text) =>
      if (l.take 1).all Path.isName && l.head? != some ['/'] then
        some (String.ofList (Path.join l), text)
      else none
    | (_, .directory) => none

/-- The files that are not the same in another tree, in ascending order of their paths. -/
def changedFrom (t before : FileTree) : List (String × String) :=
  (Dict.ofList (t.files.filter fun f => before.files.lookup f.1 != some f.2)).entries

end FileTree

end StyleObjects
