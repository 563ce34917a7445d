import StyleObjects.CommandLine.Help

/-!
# The program

Runs a request on the files of the system, prints its output and reports its failure.
-/

namespace StyleObjects

/-- A reason in the words of the system, with its number. -/
def FileError.numbered (reason : String) (number : UInt32) : FileError :=
  .other (reason ++ " (os error " ++ toString number ++ ")")

/-- The reason of a failure that the system reports. -/
def FileError.ofSystem : IO.Error → FileError
  | .noFileOrDirectory .. => .notFound
  | .alreadyExists .. => .alreadyExists
  | .inappropriateType _ 20 _ => .notADirectory
  | .inappropriateType .. => .isADirectory
  | .invalidArgument _ 36 _ => .nameTooLong
  | .invalidArgument .. => .nulInName
  | .permissionDenied _ number reason => numbered reason number
  | .resourceExhausted _ number reason => numbered reason number
  | .otherError number reason => numbered reason number
  | e => .other (toString e)

/-- Runs an action and keeps its failure. -/
def attempt {α : Type} (action : IO α) : IO (Except FileError α) := do
  try
    let a ← action
    pure (.ok a)
  catch e => pure (.error (.ofSystem e))

/-- Reads the text of a file of the system. -/
def readSystemText (path : String) : IO (Except FileError String) := do
  match ← attempt (IO.FS.withFile path .read fun file => file.readBinToEnd) with
  | .error e => pure (.error e)
  | .ok bytes => pure ((String.fromUTF8? bytes).elim (.error .notText) .ok)

/-- Access to the files of the system. -/
def systemFiles : FileAccess IO where
  readText := readSystemText
  writeText path text := attempt (IO.FS.writeFile path text)
  makeDirectory path := attempt (IO.FS.createDir path)
  isDirectory path := do
    let here ← IO.currentDir
    (here / path).isDir

end StyleObjects

open StyleObjects CommandLine in
/-- Runs the program with the given arguments. -/
def main (args : List String) : IO UInt32 := do
  let outcome ← (Request.ofArguments args).perform systemFiles
  IO.print outcome.output
  if let some report := outcome.report then
    IO.eprintln report
  pure outcome.status.toUInt32
