import StyleObjects.Pattern.Assertion
import StyleObjects.Pattern.Flags
import StyleObjects.Pattern.Named
import StyleObjects.Text.Search

/-!
# Escapes in patterns

A backslash takes the meaning from a character of the syntax, or gives one to a letter: it starts a
control character, a code point, a class or an assertion.
-/

namespace StyleObjects.Pattern

/-- What an escape stands for. -/
inductive Atom where
  | literal (c : Char)
  | set (s : CharSet)
  | assertion (a : Assertion)

/-! ## Characters of the syntax -/

/-- Whether a character has a meaning in patterns or may get one. -/
def isMeta (c : Char) : Bool :=
  ['\\', '.', '+', '*', '?', '(', ')', '|', '[', ']', '{', '}', '^', '$', '#', '&', '-', '~'].elem c

/-- Whether a backslash before a character is allowed and has no further meaning. -/
def isEscapable (c : Char) : Bool :=
  isMeta c || (CharSet.ascii c && !CharSet.alnum c && c != '<' && c != '>')

/-- A pattern that matches a text literally. -/
def escape (s : List Char) : List Char :=
  s.flatMap fun c => if isMeta c then ['\\', c] else [c]

/-! ## Braces -/

/-- Reads up to a closing brace, passing over what the flags pass over.  `fuel` bounds the number of
characters. -/
def readBraced (f : Flags) : Nat → List Char → Option (List Char × List Char)
  | 0, _ => none
  | fuel + 1, s =>
    match f.skip s with
    | [] => none
    | c :: rest =>
      if c = '}' then some ([], rest)
      else (readBraced f fuel rest).map fun r => (c :: r.1, r.2)

/-- Reads up to a closing brace. -/
def braced (f : Flags) (s : List Char) : Option (List Char × List Char) :=
  readBraced f (s.length + 1) s

/-! ## Code points -/

/-- The value of a hexadecimal digit. -/
def hexValue? (c : Char) : Option Nat :=
  if CharSet.digit c then some (c.toNat - '0'.toNat)
  else if CharSet.span 'a' 'f' c then some (c.toNat - 'a'.toNat + 10)
  else if CharSet.span 'A' 'F' c then some (c.toNat - 'A'.toNat + 10)
  else none

/-- The character with a code point that is written in hexadecimal digits. -/
def codePoint? (digits : List Char) : Option Char := do
  if digits.isEmpty then none
  let n ← digits.foldlM (fun n c => (hexValue? c).map (16 * n + ·)) 0
  if n.isValidChar then some (Char.ofNat n) else none

/-- Reads a fixed number of characters, passing over what the flags pass over. -/
def readFixed (f : Flags) : Nat → List Char → Option (List Char × List Char)
  | 0, s => some ([], s)
  | count + 1, s =>
    match f.skip s with
    | [] => none
    | c :: rest => (readFixed f count rest).map fun r => (c :: r.1, r.2)

/-- Reads a code point, in braces or with a fixed number of digits.  Where patterns are limited to
ASCII, two digits may not go beyond it. -/
def readCodePoint (f : Flags) (count : Nat) (s : List Char) : Option (Atom × List Char) :=
  match f.skip s with
  | '{' :: rest => do
    let (digits, rest) ← braced f rest
    let c ← codePoint? digits
    some (.literal c, rest)
  | s => do
    let (digits, rest) ← readFixed f count s
    let c ← codePoint? digits
    if count = 2 ∧ !f.unicode ∧ !CharSet.ascii c then none else some (.literal c, rest)

/-! ## Classes -/

/-- A named class, negated or not. -/
def namedClass (f : Flags) (negated : Bool) (set : CharSet) : Atom :=
  .set (CharSet.negateIf negated (if f.caseless then set.caseless else set))

/-- The class that is written between braces: a name, or a property with a value that it has or
does not have. -/
def classOfName? (f : Flags) (negated : Bool) (name : List Char) : Option Atom :=
  match Text.cut? ['!', '='] name, (Text.cut? [':'] name).or (Text.cut? ['='] name) with
  | some (property, value), _ =>
    (CharSet.valued? property value).map (namedClass f (!negated))
  | none, some (property, value) =>
    (CharSet.valued? property value).map (namedClass f negated)
  | none, none => (CharSet.named? name).map (namedClass f negated)

/-- Reads the name of a class, one letter or in braces. -/
def readClass (f : Flags) (negated : Bool) (s : List Char) : Option (Atom × List Char) := do
  if !f.unicode then none
  match f.skip s with
  | [] => none
  | '{' :: rest =>
    let (name, rest) ← braced f rest
    let a ← classOfName? f negated name
    some (a, rest)
  | c :: rest =>
    let set ← CharSet.named? [c]
    some (namedClass f negated set, rest)

/-- The classes with a letter of their own: digits, blanks and word characters. -/
def letterClass? (f : Flags) (c : Char) : Option CharSet :=
  match c with
  | 'd' => some (if f.unicode then Unicode.Category.decimalNumber.contains else CharSet.digit)
  | 's' => some (if f.unicode then Text.isBlank else CharSet.asciiSpace)
  | 'w' => some (if f.unicode then Unicode.isWord else CharSet.asciiWord)
  | 'D' => some (if f.unicode then CharSet.compl Unicode.Category.decimalNumber.contains
      else CharSet.digit.compl)
  | 'S' => some (if f.unicode then CharSet.compl Text.isBlank else CharSet.asciiSpace.compl)
  | 'W' => some (if f.unicode then CharSet.compl Unicode.isWord else CharSet.asciiWord.compl)
  | _ => none

/-! ## Assertions -/

/-- An assertion on word characters. -/
def wordEdge (f : Flags) (accepts : Bool → Bool → Bool) : Atom :=
  .assertion (.edge (if f.unicode then Unicode.isWord else CharSet.asciiWord) accepts)

/-- Reads what may follow a word boundary: the name of one of its kinds in braces. -/
def readBoundary (f : Flags) (s : List Char) : Option (Atom × List Char) :=
  let plain := wordEdge f fun before after => before != after
  match s with
  | '{' :: inner =>
    match f.skip inner with
    | [] => none
    | c :: _ =>
      if CharSet.alpha c || c == '-' then do
        let (name, rest) ← braced f inner
        let accepts ← Assertion.namedEdges.lookup (String.ofList name)
        some (wordEdge f accepts, rest)
      else some (plain, s)
  | s => some (plain, s)

/-! ## Escapes -/

/-- Reads an escape after its backslash. -/
def readEscape (f : Flags) : List Char → Option (Atom × List Char)
  | [] => none
  | c :: rest =>
    if isEscapable c then some (.literal c, rest)
    else
      match letterClass? f c with
      | some set => some (.set set, rest)
      | none =>
        match c with
        | 'x' => readCodePoint f 2 rest
        | 'u' => readCodePoint f 4 rest
        | 'U' => readCodePoint f 8 rest
        | 'p' => readClass f false rest
        | 'P' => readClass f true rest
        | 'a' => some (.literal '\x07', rest)
        | 'f' => some (.literal '\x0c', rest)
        | 't' => some (.literal '\t', rest)
        | 'n' => some (.literal '\n', rest)
        | 'r' => some (.literal '\r', rest)
        | 'v' => some (.literal '\x0b', rest)
        | 'A' => some (.assertion .textStart, rest)
        | 'z' => some (.assertion .textEnd, rest)
        | 'b' => readBoundary f rest
        | 'B' => some (wordEdge f fun before after => before == after, rest)
        | '<' => some (wordEdge f fun before after => !before && after, rest)
        | '>' => some (wordEdge f fun before after => before && !after, rest)
        | _ => none

/-- A character of the syntax stands for itself after a backslash. -/
theorem readEscape_of_isMeta {f : Flags} {c : Char} (h : isMeta c = true) (rest : List Char) :
    readEscape f (c :: rest) = some (.literal c, rest) := by
  simp [readEscape, isEscapable, h]

end StyleObjects.Pattern
