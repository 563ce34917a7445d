import StyleObjects.Pattern.Bracket

/-!
# Reading patterns

A pattern is read from left to right.  The open groups are kept on a stack; flags that are set
inside of a group hold to its end.  Look-around and references to groups are not part of the syntax.
-/

namespace StyleObjects.Pattern

/-! ## Groups -/

/-- The content of a group as far as it has been read. -/
structure Level where
  /-- The alternatives before the last one. -/
  choices : Option Pattern
  /-- The parts of the last alternative, the latest first; nothing for flags that are set. -/
  parts : List (Option Pattern)

namespace Level

/-- A group of which nothing has been read. -/
def empty : Level := ⟨none, []⟩

/-- Adds a part. -/
def add (l : Level) (x : Pattern) : Level :=
  { l with parts := some x :: l.parts }

/-- The group with its last alternative among the others. -/
def finish (l : Level) : Pattern :=
  let last := Pattern.ofList (l.parts.reverse.filterMap id)
  match l.choices with
  | none => last
  | some before => .either before last

/-- Begins another alternative. -/
def alternate (l : Level) : Level := ⟨some l.finish, []⟩

/-- Applies a repetition to the last part. -/
def repeatLast (l : Level) (least : Nat) (most : Option Nat) (greedy : Bool) : Option Level :=
  match l.parts with
  | some x :: parts => some { l with parts := some (.repeated x least most greedy) :: parts }
  | _ => none

end Level

/-- What has been read: the innermost group, the flags in it, the groups around it with the flags to
return to, and the names of groups. -/
structure Progress where
  level : Level
  flags : Flags
  outer : List (Level × Flags)
  names : List (List Char)

namespace Progress

/-- The start of a pattern. -/
def start : Progress := ⟨.empty, .initial, [], []⟩

/-- Adds a part to the innermost group. -/
def add (p : Progress) (x : Pattern) : Progress :=
  { p with level := p.level.add x }

/-- Opens a group in which some flags hold. -/
def push (p : Progress) (flags : Flags) : Progress :=
  { p with level := .empty, flags, outer := (p.level, p.flags) :: p.outer }

/-- Closes the innermost group. -/
def pop? (p : Progress) : Option Progress :=
  match p.outer with
  | [] => none
  | (level, flags) :: outer =>
    some { p with level := level.add p.level.finish, flags, outer }

end Progress

/-- The greatest number of groups inside of one another. -/
def maxNesting : Nat := 250

/-- Whether a character may stand in the name of a group. -/
def isNameChar (first : Bool) (c : Char) : Bool :=
  c == '_' || if first then Unicode.isAlphabetic c
    else c == '.' || c == '[' || c == ']' || Unicode.isAlphanumeric c

/-- Opens a group with a name, which must be new. -/
def openNamed (p : Progress) (s : List Char) : Option (Progress × List Char) :=
  let name := s.takeWhile (· != '>')
  match name, s.dropWhile (· != '>') with
  | first :: others, _ :: rest =>
    if isNameChar true first && others.all (isNameChar false) && !p.names.contains name then
      some ({ p.push p.flags with names := name :: p.names }, rest)
    else none
  | _, _ => none

/-- Reads the start of a group, or flags that are set, after the opening parenthesis. -/
def openGroup (p : Progress) (s : List Char) : Option (Progress × List Char) :=
  match p.flags.skip s with
  | '?' :: 'P' :: '<' :: rest => openNamed p rest
  | '?' :: '<' :: c :: rest => if c = '=' ∨ c = '!' then none else openNamed p (c :: rest)
  | '?' :: rest => do
    let read ← readFlags p.flags [] rest
    if read.closing = ':' then some (p.push read.flags, read.rest)
    else if read.isEmpty then none
    else
      some ({ p with flags := read.flags, level.parts := none :: p.level.parts }, read.rest)
  | rest => some (p.push p.flags, rest)

/-! ## Repetition -/

/-- Whether a repetition is greedy, and what follows a question mark after it. -/
def readGreedy (f : Flags) : List Char → Bool × List Char
  | '?' :: rest => (f.lazyByDefault, rest)
  | s => (!f.lazyByDefault, s)

/-- Applies a repetition that was read up to a question mark. -/
def applyRepetition (p : Progress) (least : Nat) (most : Option Nat) (s : List Char) :
    Option (Progress × List Char) :=
  let (greedy, rest) := readGreedy p.flags s
  (p.level.repeatLast least most greedy).map fun level => ({ p with level }, rest)

/-- Reads the digits of a count, between which the flags may allow blanks. -/
def readDigits (f : Flags) : Nat → List Char → List Char × List Char
  | 0, s => ([], s)
  | fuel + 1, s =>
    match s with
    | c :: rest =>
      if CharSet.digit c then
        let (digits, rest) := readDigits f fuel (f.skip rest)
        (c :: digits, rest)
      else ([], s)
    | [] => ([], [])

/-- Reads a count, with blanks around it: nothing if there are no digits. -/
def readCount (f : Flags) (s : List Char) : Option Nat × List Char :=
  let s := Text.trimStart s
  let (digits, rest) := readDigits f (s.length + 1) s
  let value := digits.foldl (fun n c => 10 * n + (c.toNat - '0'.toNat)) 0
  let count := if digits.isEmpty ∨ UInt32.size ≤ value then none else some value
  (count, f.skip (Text.trimStart rest))

/-- Reads a counted repetition after its opening brace. -/
def readCounted (p : Progress) (s : List Char) : Option (Progress × List Char) := do
  let f := p.flags
  let (least, rest) := readCount f (f.skip s)
  let least ← least
  match rest with
  | ',' :: rest =>
    match f.skip rest with
    | '}' :: rest => applyRepetition p least none (f.skip rest)
    | rest =>
      let (most, rest) := readCount f rest
      let most ← most
      match rest with
      | '}' :: rest =>
        if least ≤ most then applyRepetition p least (some most) (f.skip rest) else none
      | _ => none
  | '}' :: rest => applyRepetition p least (some least) (f.skip rest)
  | _ => none

/-! ## Parts -/

/-- A literal character under some flags. -/
def literal (f : Flags) (c : Char) : Pattern :=
  .one (f.close (.single c))

/-- The dot: any character but the end of a line.  Where patterns are limited to ASCII there is no
such class. -/
def dot? (f : Flags) : Option Pattern :=
  if !f.unicode then none
  else if f.dotAll then some (.one .all)
  else if f.carriageReturns then some (.one (CharSet.ofString "\r\n").compl)
  else some (.one (CharSet.single '\n').compl)

/-- The part that an atom stands for. -/
def Atom.toPattern? (f : Flags) : Atom → Option Pattern
  | literal c => some (Pattern.literal f c)
  | set s => if f.unicode || !s '\u0080' then some (.one s) else none
  | assertion a => some (.assertion a)

/-- Reads the next part of a pattern. -/
def readPart (p : Progress) : List Char → Option (Progress × List Char)
  | [] => none
  | c :: rest =>
    let f := p.flags
    match c with
    | '(' => if p.outer.length < maxNesting then openGroup p rest else none
    | ')' => p.pop?.map fun p => (p, rest)
    | '|' => some ({ p with level := p.level.alternate }, rest)
    | '[' => (readClassInBrackets f rest).map fun r => (p.add (.one r.1), r.2)
    | '?' => applyRepetition p 0 (some 1) rest
    | '*' => applyRepetition p 0 none rest
    | '+' => applyRepetition p 1 none rest
    | '{' => readCounted p rest
    | '\\' => do
      let (a, rest) ← readEscape f rest
      let x ← a.toPattern? f
      some (p.add x, rest)
    | '.' => (dot? f).map fun x => (p.add x, rest)
    | '^' =>
      some (p.add (.assertion
        (if f.multiLine then .lineStart f.carriageReturns else .textStart)), rest)
    | '$' =>
      some (p.add (.assertion
        (if f.multiLine then .lineEnd f.carriageReturns else .textEnd)), rest)
    | c => some (p.add (literal f c), rest)

/-- Reads the rest of a pattern.  `fuel` bounds the number of parts, each of which takes a
character. -/
def readParts : Nat → Progress → List Char → Option Pattern
  | 0, _, _ => none
  | fuel + 1, p, s =>
    match p.flags.skip s with
    | [] => if p.outer.isEmpty then some p.level.finish else none
    | s => do
      let (p, rest) ← readPart p s
      readParts fuel p rest

/-- The greatest number of steps that a pattern may unroll to. -/
def maxSteps : Nat := 327680

/-- Reads a pattern. -/
def parse? (s : List Char) : Option Pattern :=
  (readParts (s.length + 1) .start s).filter (·.steps ≤ maxSteps)

end StyleObjects.Pattern
