import StyleObjects.Text.Search

/-!
# Arguments

The arguments of the program name a command, its options and its operand.  An option starts with two
dashes; its value is the next argument, or follows an equals sign.  After a lone `--` all arguments
are operands.  Arguments are read from left to right, and the first one that asks for help or is
wrong decides.
-/

namespace StyleObjects.CommandLine

/-! ## Options -/

/-- What values an option or operand takes. -/
inductive ValueForm where
  | text
  /-- A path, which is not empty. -/
  | path
  /-- A kind of tag and its name, with an equals sign between them. -/
  | rename
deriving DecidableEq, Repr

/-- The parts of a renaming, neither of which may be empty. -/
def splitRenaming? (s : String) : Option (String × String) := do
  let (kind, tag) ← Text.cut? ['='] s.toList
  if kind.isEmpty || tag.isEmpty then none else some (String.ofList kind, String.ofList tag)

/-- Whether a value has a form. -/
def ValueForm.accepts (form : ValueForm) (value : String) : Bool :=
  match form with
  | text => true
  | path => !value.isEmpty
  | rename => (splitRenaming? value).isSome

/-- How an option is written. -/
inductive OptionForm where
  /-- Without a value, once. -/
  | flag
  /-- With a value, once. -/
  | single (form : ValueForm)
  /-- With a value, any number of times. -/
  | several (form : ValueForm)
deriving DecidableEq, Repr

/-- The options of a command by name; every command has one operand, which is a path. -/
abbrev CommandOptions := List (String × OptionForm)

/-- Options and operands that were read. -/
structure Arguments where
  /-- Options in order, with their values. -/
  options : List (String × String)
  operand : Option String
deriving DecidableEq, Repr

namespace Arguments

/-- No arguments. -/
def empty : Arguments := ⟨[], none⟩

/-- Whether an option is given. -/
def has (a : Arguments) (name : String) : Bool :=
  a.options.any (·.1 = name)

/-- The value of an option. -/
def value? (a : Arguments) (name : String) : Option String :=
  a.options.lookup name

/-- All values of an option in order. -/
def values (a : Arguments) (name : String) : List String :=
  (a.options.filter (·.1 = name)).map (·.2)

end Arguments

/-- Why reading arguments ended early. -/
inductive Stop where
  | help
  | usageError
deriving DecidableEq, Repr

/-- Adds the operand. -/
def addOperand (a : Arguments) (value : String) : Except Stop Arguments :=
  if a.operand.isSome || !ValueForm.path.accepts value then throw .usageError
  else pure { a with operand := some value }

/-- Adds an option with its value. -/
def addOption (a : Arguments) (name : String) (form : OptionForm) (value : String) :
    Except Stop Arguments :=
  let added : Arguments := { a with options := a.options ++ [(name, value)] }
  match form with
  | .flag => if a.has name then throw .usageError else pure added
  | .single f => if a.has name || !f.accepts value then throw .usageError else pure added
  | .several f => if f.accepts value then pure added else throw .usageError

/-- The name of an option, and the value after an equals sign if there is one. -/
def splitOption (s : List Char) : String × Option String :=
  match Text.cut? ['='] s with
  | some (name, value) => (String.ofList name, some (String.ofList value))
  | none => (String.ofList s, none)

/-- Whether an argument looks like an option: it starts with a dash and has more than that. -/
def isOptionLike (s : String) : Bool :=
  match s.toList with
  | '-' :: _ :: _ => true
  | _ => false

/-- Reads the arguments of a command. -/
def readArguments (known : CommandOptions) (onlyOperands : Bool) (a : Arguments) :
    List String → Except Stop Arguments
  | [] => pure a
  | arg :: rest =>
    if onlyOperands then do readArguments known true (← addOperand a arg) rest
    else
      match arg.toList with
      | ['-', '-'] => readArguments known true a rest
      | '-' :: '-' :: option =>
        let (name, value) := splitOption option
        match known.lookup name, value, rest with
        | some .flag, none, rest => do
          readArguments known false (← addOption a name .flag "") rest
        | some .flag, some _, _ => throw .usageError
        | some form, some value, rest => do
          readArguments known false (← addOption a name form value) rest
        | some form, none, value :: rest => do
          if isOptionLike value then throw .usageError
          readArguments known false (← addOption a name form value) rest
        | some _, none, [] => throw .usageError
        | none, none, _ => throw (if name = "help" then .help else .usageError)
        | none, some _, _ => throw .usageError
      | '-' :: letter :: _ => throw (if letter = 'h' then .help else .usageError)
      | _ => do readArguments known false (← addOperand a arg) rest

/-! ## Commands -/

/-- What the program is asked to do with files. -/
inductive Command where
  | compile (file : String) (outDir : Option String) (maps : Bool)
  | extract (source module : String) (name prepend version : Option String) (map : Bool)
      (pattern : Option String) (renamings : List (String × String))
deriving DecidableEq, Repr

/-- What help is asked for. -/
inductive Topic where
  | program
  | compile
  | extract
  | help
deriving DecidableEq, Repr

/-- What the program is asked to do. -/
inductive Request where
  | run (command : Command)
  | help (topic : Topic)
  | version
  | usageError
deriving DecidableEq, Repr

/-- The options for compiling. -/
def compileOptions : CommandOptions :=
  [("out-dir", .single .path), ("maps", .flag)]

/-- The options for extracting. -/
def extractOptions : CommandOptions :=
  [("module", .single .path), ("name", .single .text), ("prepend", .single .text),
  ("version", .single .text), ("map", .flag), ("pattern", .single .text),
  ("tag", .several .rename)]

/-- The command to compile; maps are written only into a directory. -/
def compileCommand? (a : Arguments) : Option Command := do
  let file ← a.operand
  let outDir := a.value? "out-dir"
  if a.has "maps" && outDir.isNone then none else some (.compile file outDir (a.has "maps"))

/-- The command to extract, which needs a module. -/
def extractCommand? (a : Arguments) : Option Command := do
  let source ← a.operand
  let module ← a.value? "module"
  some (.extract source module (a.value? "name") (a.value? "prepend") (a.value? "version")
    (a.has "map") (a.value? "pattern") ((a.values "tag").filterMap splitRenaming?))

/-- Reads the arguments of a command, about which help can be asked. -/
def Request.ofCommand (topic : Topic) (known : CommandOptions)
    (command? : Arguments → Option Command) (args : List String) : Request :=
  match readArguments known false .empty args with
  | .ok a => (command? a).elim usageError run
  | .error .help => help topic
  | .error .usageError => usageError

/-- Reads the names of commands that help is asked about. -/
def Request.ofHelp : List String → Request
  | [] => help .program
  | ["compile"] => help .compile
  | ["extract"] => help .extract
  | ["help"] => help .help
  | _ => usageError

/-- Reads the arguments of the program. -/
def Request.ofArguments : List String → Request
  | [] => usageError
  | first :: rest =>
    match first with
    | "compile" => ofCommand .compile compileOptions compileCommand? rest
    | "extract" => ofCommand .extract extractOptions extractCommand? rest
    | "help" => ofHelp rest
    | "--help" => help .program
    | "--version" => version
    | first =>
      match first.toList with
      | '-' :: 'h' :: _ => help .program
      | '-' :: 'V' :: _ => version
      | _ => usageError

end StyleObjects.CommandLine
