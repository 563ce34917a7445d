import StyleObjects.Pattern.Escape

/-!
# Bracketed classes

A class in brackets is a union of characters, ranges and other classes.  Classes may be nested, and
unions may be joined from left to right by intersection, difference and symmetric difference.
-/

namespace StyleObjects.Pattern

/-- How two unions of a class are joined. -/
inductive SetOperator where
  | inter
  | diff
  | symmDiff
deriving DecidableEq, Repr

/-- Joins two sets. -/
def SetOperator.apply : SetOperator → CharSet → CharSet → CharSet
  | inter => CharSet.inter
  | diff => CharSet.diff
  | symmDiff => CharSet.symmDiff

/-- The set that a union stands for: case variants belong to it if case does not matter. -/
def Flags.close (f : Flags) (s : CharSet) : CharSet :=
  if f.caseless then if f.unicode then s.caseless else s.caselessAscii else s

/-- An open bracket: whether it is negated, what stands before the last operator, and the union
after it. -/
structure Bracket where
  negated : Bool
  left : Option (SetOperator × CharSet)
  union : CharSet

namespace Bracket

/-- Adds a set to the last union. -/
def add (b : Bracket) (s : CharSet) : Bracket :=
  { b with union := b.union.union s }

/-- The set of what has been read. -/
def joined (f : Flags) (b : Bracket) : CharSet :=
  match b.left with
  | none => b.union
  | some (operator, left) => operator.apply (f.close left) (f.close b.union)

/-- Begins a union after an operator. -/
def join (f : Flags) (operator : SetOperator) (b : Bracket) : Bracket :=
  { b with left := some (operator, b.joined f), union := CharSet.none }

/-- The set of a bracket that is closed. -/
def close (f : Flags) (b : Bracket) : CharSet :=
  CharSet.negateIf b.negated (f.close (b.joined f))

end Bracket

/-! ## Opening -/

/-- Reads dashes, which are literal at the start of a bracket. -/
def readDashes (f : Flags) : Nat → Bracket → List Char → Option (Bracket × List Char)
  | 0, _, _ => none
  | fuel + 1, b, s =>
    match f.skip s with
    | [] => none
    | c :: rest =>
      if c = '-' then readDashes f fuel (b.add (.single '-')) rest else some (b, c :: rest)

/-- Reads the start of a bracket after its opening character: a caret negates it, and then dashes,
or else one closing character, are literal. -/
def openBracket (f : Flags) (s : List Char) : Option (Bracket × List Char) :=
  let readStart (negated : Bool) (s : List Char) : Option (Bracket × List Char) :=
    match f.skip s with
    | ']' :: rest => some (⟨negated, none, .single ']'⟩, rest)
    | s => readDashes f (s.length + 1) ⟨negated, none, .none⟩ s
  match f.skip s with
  | '^' :: rest => readStart true rest
  | s => readStart false s

/-- Reads a class with a name between colons, after the opening bracket of both. -/
def readNamedBracket : List Char → Option (CharSet × List Char)
  | ':' :: s =>
    let (negated, s) := match s with
      | '^' :: rest => (true, rest)
      | s => (false, s)
    let name := s.takeWhile (· != ':')
    match s.dropWhile (· != ':') with
    | ':' :: ']' :: rest =>
      (CharSet.bracketClasses.lookup (String.ofList name)).map fun set =>
        (CharSet.negateIf negated set, rest)
    | _ => none
  | _ => none

/-! ## Items -/

/-- Reads a character, an escape or another atom inside of a bracket. -/
def readItem (f : Flags) : List Char → Option (Atom × List Char)
  | [] => none
  | '\\' :: rest => readEscape f rest
  | c :: rest => some (.literal c, rest)

/-- The set of an item that stands alone; an assertion is none. -/
def Atom.toSet? (f : Flags) : Atom → Option CharSet
  | literal c => if f.unicode || CharSet.ascii c then some (.single c) else none
  | set s => some s
  | assertion _ => none

/-- Reads an item or a range.  A dash is literal before the end of the bracket and before another
dash. -/
def readRange (f : Flags) (s : List Char) : Option (CharSet × List Char) := do
  let (first, rest) ← readItem f s
  match f.skip rest with
  | [] => none
  | '-' :: afterDash =>
    let next := f.skip afterDash
    if next.head? = some ']' ∨ next.head? = some '-' then
      let set ← first.toSet? f
      some (set, '-' :: afterDash)
    else
      let (last, rest) ← readItem f next
      match first, last with
      | .literal a, .literal b =>
        if a ≤ b ∧ (f.unicode ∨ CharSet.ascii b) then some (.span a b, rest) else none
      | _, _ => none
  | rest =>
    let set ← first.toSet? f
    some (set, rest)

/-! ## Classes -/

/-- Reads the rest of a class with its open brackets, the innermost first.  `fuel` bounds the number
of steps, each of which takes a character. -/
def readBrackets (f : Flags) : Nat → Bracket → List Bracket → List Char →
    Option (CharSet × List Char)
  | 0, _, _, _ => none
  | fuel + 1, b, outer, s =>
    match f.skip s with
    | [] => none
    | '[' :: rest =>
      match readNamedBracket rest with
      | some (set, rest) => readBrackets f fuel (b.add set) outer rest
      | none => do
        let (inner, rest) ← openBracket f rest
        readBrackets f fuel inner (b :: outer) rest
    | ']' :: rest =>
      match outer with
      | [] => some (b.close f, rest)
      | parent :: outer => readBrackets f fuel (parent.add (b.close f)) outer rest
    | '&' :: '&' :: rest => readBrackets f fuel (b.join f .inter) outer rest
    | '-' :: '-' :: rest => readBrackets f fuel (b.join f .diff) outer rest
    | '~' :: '~' :: rest => readBrackets f fuel (b.join f .symmDiff) outer rest
    | s => do
      let (set, rest) ← readRange f s
      readBrackets f fuel (b.add set) outer rest

/-- Reads a class after its opening bracket.  Where patterns are limited to ASCII, the class
must not go beyond it. -/
def readClassInBrackets (f : Flags) (s : List Char) : Option (CharSet × List Char) := do
  let (b, rest) ← openBracket f s
  let (set, rest) ← readBrackets f (rest.length + 1) b [] rest
  if f.unicode || !set '\u0080' then some (set, rest) else none

end StyleObjects.Pattern
