import StyleObjects.Files.Access
import StyleObjects.Json.Printer
import StyleObjects.Record.ToJson

/-!
# Output of sheets

Sheets are printed one after the other, or written into files of an output directory: every sheet
into a file with its name, and its lookup maps into a second file if they are asked for.  All names
are checked before anything is written.
-/

namespace StyleObjects

/-! ## Names -/

/-- The name of the file of a sheet.  A sheet without name is named for its position. -/
def Sheet.fileName (s : Sheet) (index : Option Nat) : String :=
  match nonEmpty s.name, index with
  | some name, _ => name
  | none, some index => "style-" ++ toString index ++ ".css"
  | none, none => "style.css"

/-- A name of a sheet that does not lead to a file inside of the output directory. -/
structure BadSheetName where
  name : String
deriving DecidableEq, Repr

/-- The report of a bad name. -/
def BadSheetName.message (e : BadSheetName) : String :=
  "sheet name '" ++ e.name ++ "' must be a relative file path inside the output directory"

/-- Whether a path leads to a file inside of the directory that it is relative to. -/
def Path.isInside (path : String) : Bool :=
  !isAbsolute path && !(split path.toList).contains ['.', '.'] && (fileName? path).isSome

/-- Checks the name of a sheet. -/
def checkSheetName (name : String) : Except BadSheetName Unit :=
  if Path.isInside name then pure () else throw ⟨name⟩

/-! ## Files -/

/-- A file to be written. -/
structure OutputFile where
  path : String
  text : String
deriving DecidableEq, Repr

/-- The files of a sheet with a given name. -/
def Sheet.outputs (s : Sheet) (name directory : String) (maps : Bool) : List OutputFile :=
  ⟨Path.append directory name, s.css ++ "\n"⟩ ::
    if maps then [⟨Path.append directory (name ++ ".map.json"), s.mapsJson.pretty⟩] else []

namespace SheetSet

/-- The sheets with the names of their files.  In a sequence the position counts. -/
def named : SheetSet → List (Sheet × String)
  | one sheet => [(sheet, sheet.fileName none)]
  | many sheets => sheets.mapIdx fun index sheet => (sheet, sheet.fileName (some index))

/-- The files of some sheets, if all names are good. -/
def outputs (s : SheetSet) (directory : String) (maps : Bool) :
    Except BadSheetName (List OutputFile) := do
  s.named.forM fun e => checkSheetName e.2
  pure (s.named.flatMap fun e => e.1.outputs e.2 directory maps)

/-- The text of some sheets, with an empty line between any two. -/
def printed (s : SheetSet) : String :=
  "\n".intercalate (s.toList.map fun sheet => sheet.css ++ "\n")

end SheetSet

/-! ## Writing -/

/-- Why sheets were not written. -/
inductive WriteError where
  | badName (e : BadSheetName)
  /-- A directory could not be made. -/
  | directory (path : String) (e : FileError)
  /-- A file could not be written. -/
  | file (path : String) (e : FileError)
deriving DecidableEq, Repr

/-- The report of a failure to write. -/
def WriteError.message : WriteError → String
  | badName e => e.message
  | directory path e => "failed to create " ++ path ++ ": " ++ e.message
  | file path e => "failed to write " ++ path ++ ": " ++ e.message

section

variable {m : Type → Type} [Monad m]

/-- Writes a file and makes the directories that it is in. -/
def OutputFile.write (fs : FileAccess m) (f : OutputFile) : m (Except WriteError Unit) := do
  let parent := (Path.parent? f.path).getD ""
  match ← fs.ensureDirectory parent with
  | .error e => pure (.error (.directory parent e))
  | .ok () => return (← fs.writeText f.path f.text).mapError (.file f.path)

/-- Writes files one after the other, up to the first that cannot be written. -/
def writeAll (fs : FileAccess m) : List OutputFile → m (Except WriteError Unit)
  | [] => pure (.ok ())
  | f :: rest => do
    match ← f.write fs with
    | .ok () => writeAll fs rest
    | .error e => pure (.error e)

/-- Writes sheets into a directory and gives the paths that were written. -/
def SheetSet.write (fs : FileAccess m) (s : SheetSet) (directory : String) (maps : Bool) :
    m (Except WriteError (List String)) := do
  match s.outputs directory maps with
  | .error e => pure (.error (.badName e))
  | .ok files => return (← writeAll fs files).map fun _ => files.map OutputFile.path

end

end StyleObjects
