import StyleObjects.Files.Path

/-!
# Access to files

What the program asks of a file system, as a record of operations in some monad, and the directories
that it makes with them.
-/

namespace StyleObjects

/-- Why an operation on a file failed. -/
inductive FileError where
  | notFound
  | alreadyExists
  | notADirectory
  | isADirectory
  | nameTooLong
  | nulInName
  | notText
  /-- A reason that the system gives in its own words. -/
  | other (reason : String)
deriving DecidableEq, Repr

/-- The report of a file error, with its number where it has one. -/
def FileError.message : FileError → String
  | notFound => "No such file or directory (os error 2)"
  | alreadyExists => "File exists (os error 17)"
  | notADirectory => "Not a directory (os error 20)"
  | isADirectory => "Is a directory (os error 21)"
  | nameTooLong => "File name too long (os error 36)"
  | nulInName => "file name contained an unexpected NUL byte"
  | notText => "stream did not contain valid UTF-8"
  | other reason => reason

/-- Operations on a file system. -/
structure FileAccess (m : Type → Type) where
  /-- The text of a file. -/
  readText : String → m (Except FileError String)
  /-- Puts a text into a file, which is created or overwritten. -/
  writeText : String → String → m (Except FileError Unit)
  /-- Makes a directory in one that exists. -/
  makeDirectory : String → m (Except FileError Unit)
  /-- Whether a path leads to a directory. -/
  isDirectory : String → m Bool

namespace FileAccess

variable {m : Type → Type} [Monad m]

/-- Makes a directory; one that exists already is as good. -/
def ensureLast (fs : FileAccess m) (path : String) : m (Except FileError Unit) := do
  match ← fs.makeDirectory path with
  | .ok () => pure (.ok ())
  | .error e => if ← fs.isDirectory path then pure (.ok ()) else pure (.error e)

/-- Makes a directory and the directories above it that are missing.  `depth` bounds their
number. -/
def ensureFrom (fs : FileAccess m) : Nat → String → m (Except FileError Unit)
  | 0, _ => pure (.error .notFound)
  | depth + 1, path => do
    if path.isEmpty then pure (.ok ())
    else
      match ← fs.makeDirectory path with
      | .ok () => pure (.ok ())
      | .error .notFound =>
        match Path.parent? path with
        | none => pure (.error (.other "failed to create whole tree"))
        | some above =>
          match ← ensureFrom fs depth above with
          | .ok () => ensureLast fs path
          | .error e => pure (.error e)
      | .error e => if ← fs.isDirectory path then pure (.ok ()) else pure (.error e)

/-- Makes a directory and the directories above it that are missing. -/
def ensureDirectory (fs : FileAccess m) (path : String) : m (Except FileError Unit) :=
  ensureFrom fs (path.length + 1) path

end FileAccess

end StyleObjects
