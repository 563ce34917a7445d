import StyleObjects.CommandLine.Arguments
import StyleObjects.Extract
import StyleObjects.Record.Loading
import StyleObjects.Sheet.Output

/-!
# Running commands

The program compiles the records of a file, or extracts a record from a source.  It prints what it
made or wrote, or one line that says what went wrong, and ends with a status.
-/

namespace StyleObjects.CommandLine

/-! ## Failures -/

/-- Why a command failed. -/
inductive Failure where
  /-- A file could not be read. -/
  | read (path : String) (e : FileError)
  /-- A file holds no records. -/
  | records (path : String) (e : LoadError)
  /-- A file holds no style module. -/
  | module (path : String)
  /-- No settings could be extracted from a source. -/
  | extract (path : String) (e : ExtractError)
  | tagKind (e : UnknownTagKind)
  | write (e : WriteError)
deriving DecidableEq, Repr

/-- The report of a failure to load, which says at least what the text should have been. -/
def loadReport (e : LoadError) : String :=
  e.message?.getD <|
    match e with
    | .notFormat format => format.invalidRecord
    | _ => ""

/-- The report of a failure, from the outside in. -/
def Failure.message : Failure → String
  | read path e => "failed to read " ++ path ++ ": " ++ e.message
  | records path e => "failed to load records from " ++ path ++ ": " ++ loadReport e
  | module path => "failed to load style module from " ++ path
  | extract path e => "failed to extract settings from " ++ path ++ ": " ++ e.message
  | tagKind e => e.message
  | write e => e.message

/-! ## Files -/

/-- The format of a file, which its extension tells: YAML, or JSON for any other. -/
def formatOfPath (path : String) : Format :=
  match (Path.extension? path).map fun s => s.toList.map Char.toLower with
  | some ['y', 'a', 'm', 'l'] => .yaml
  | some ['y', 'm', 'l'] => .yaml
  | _ => .json

section

variable {m : Type → Type} [Monad m]

/-- Reads the text of a file. -/
def readFile (fs : FileAccess m) (path : String) : ExceptT Failure m String :=
  ExceptT.mk do return (← fs.readText path).mapError (.read path)

/-- Loads the records of a file. -/
def readRecords (fs : FileAccess m) (path : String) : ExceptT Failure m RecordSet := do
  let text ← readFile fs path
  ExceptT.mk (pure ((RecordSet.parse (formatOfPath path) text).mapError (.records path)))

/-- Loads the style module of a file. -/
def readModule (fs : FileAccess m) (path : String) : ExceptT Failure m StyleModule := do
  let text ← readFile fs path
  match StyleModule.parse? (formatOfPath path) text with
  | some styles => pure styles
  | none => throw (.module path)

/-- Builds the record of a module file from a source file. -/
def extractRecord (fs : FileAccess m) (source module : String) (settings : ExtractSettings) :
    ExceptT Failure m Record := do
  let text ← readFile fs source
  let styles ← readModule fs module
  ExceptT.mk (pure ((StyleObjects.extract text styles settings).mapError (.extract source)))

/-! ## Commands -/

/-- The usual tags, some of which are renamed. -/
def renamedTags (renamings : List (String × String)) : Except UnknownTagKind Tags :=
  renamings.foldlM (fun tags r => tags.renameNamed r.1 r.2) .usual

/-- Runs a command and gives the text to print. -/
def Command.run (fs : FileAccess m) : Command → ExceptT Failure m String
  | compile file outDir maps => do
    let sheets := (← readRecords fs file).compile
    match outDir with
    | none => pure sheets.printed
    | some directory =>
      let paths ← ExceptT.mk do
        return (← sheets.write fs directory maps).mapError Failure.write
      pure (String.join (paths.map (· ++ "\n")))
  | extract source module name prepend version map pattern renamings => do
    let tags ← ExceptT.mk (pure ((renamedTags renamings).mapError .tagKind))
    let r ← extractRecord fs source module { name, prepend, version, map, pattern, tags }
    pure (r.toJson.pretty ++ "\n")

end

/-! ## Outcome -/

/-- The status that the program ends with, what it prints, and the line that it reports. -/
structure Outcome where
  status : Nat
  output : String
  report : Option String
deriving DecidableEq, Repr

/-- The outcome of a command. -/
def Outcome.ofResult : Except Failure String → Outcome
  | .ok output => ⟨0, output, none⟩
  | .error e => ⟨1, "", some ("Error: " ++ e.message)⟩

end StyleObjects.CommandLine
