import StyleObjects.CommandLine.Run

/-!
# Help

The texts that the program prints about itself, and the outcome of every request.
-/

namespace StyleObjects.CommandLine

/-- The name and version of the program. -/
def versionText : String := "objcss 0.3.0\n"

/-- What the program, a command or help itself is for. -/
def Topic.about : Topic → String
  | program => "Compile style objects into stylesheets"
  | compile => "Compile a record, or an array of records, into stylesheets"
  | extract => "Build a record from the doc comments of a style source file"
  | help => "Print this message or the help of the given subcommand(s)"

/-- How a topic is asked for. -/
def Topic.usage : Topic → String
  | program => "objcss <COMMAND>"
  | compile => "objcss compile [OPTIONS] <FILE>"
  | extract => "objcss extract [OPTIONS] --module <FILE> <SOURCE>"
  | help => "objcss help [COMMAND]..."

/-- The parts of a help text: a heading, and names with what they are for. -/
def Topic.parts : Topic → List (String × List (String × String))
  | program =>
    [("Commands", [("compile", compile.about), ("extract", extract.about), ("help", help.about)]),
    ("Options", [("-h, --help", "Print help"), ("-V, --version", "Print version")])]
  | compile =>
    [("Arguments", [("<FILE>", "Record file (.json, .yaml or .yml)")]),
    ("Options",
      [("    --out-dir <DIR>",
        "Directory to write stylesheets into; prints to stdout when absent"),
      ("    --maps", "Also write \x7bname\x7d.map.json lookup maps next to each stylesheet"),
      ("-h, --help", "Print help")])]
  | extract =>
    [("Arguments", [("<SOURCE>", "Source file declaring the style objects")]),
    ("Options",
      [("    --module <FILE>", "Style module file (.json, .yaml or .yml)"),
      ("    --name <NAME>", "Output name stored in the record"),
      ("    --prepend <PREPEND>", "Selector prefix, unless the file's config block sets one"),
      ("    --version <VERSION>", "Version folded into derived selectors"),
      ("    --map", "Annotate rules with map comments"),
      ("    --pattern <REGEX>",
        "Pattern locating declarations, with XXXXXX for the object name"),
      ("    --tag <KIND=TAG>", "Rename a tag, e.g. --tag class=@override (repeatable)"),
      ("-h, --help", "Print help")])]
  | help => [("Arguments", [("[COMMAND]...", "Print help for the subcommand(s)")])]

/-- A part of a help text, with what the names are for in one column. -/
def layPart (part : String × List (String × String)) : String :=
  let width := (part.2.map fun e => e.1.length).foldl max 0
  let line (e : String × String) : String :=
    "  " ++ e.1 ++ String.ofList (List.replicate (width - e.1.length + 2) ' ') ++ e.2 ++ "\n"
  "\n" ++ part.1 ++ ":\n" ++ String.join (part.2.map line)

/-- The help text of a topic. -/
def Topic.text (topic : Topic) : String :=
  topic.about ++ "\n\nUsage: " ++ topic.usage ++ "\n" ++ String.join (topic.parts.map layPart)

/-- Does what is asked for. -/
def Request.perform {m : Type → Type} [Monad m] (fs : FileAccess m) : Request → m Outcome
  | .run command => return .ofResult (← (command.run fs).run)
  | help topic => pure ⟨0, topic.text, none⟩
  | version => pure ⟨0, versionText, none⟩
  | usageError => pure ⟨2, "", none⟩

end StyleObjects.CommandLine
