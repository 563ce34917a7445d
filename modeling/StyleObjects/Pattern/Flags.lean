import StyleObjects.Pattern.CharSet

/-!
# Flags of patterns

Flags change how the rest of a group is read.  They are written `(?i)`, or `(?i-s:…)` for one group
alone.  With the flag `x`, blanks and comments from `#` to the end of the line are passed over.
-/

namespace StyleObjects.Pattern

/-- The flags in effect. -/
structure Flags where
  /-- `i`: case does not matter. -/
  caseless : Bool
  /-- `m`: `^` and `$` match at every line. -/
  multiLine : Bool
  /-- `s`: the dot matches line feeds as well. -/
  dotAll : Bool
  /-- `U`: a question mark makes a repetition greedy. -/
  lazyByDefault : Bool
  /-- `u`: classes and boundaries go beyond ASCII. -/
  unicode : Bool
  /-- `R`: a carriage return and a line feed together end a line. -/
  carriageReturns : Bool
  /-- `x`: blanks and comments are passed over. -/
  extended : Bool
deriving DecidableEq, Repr

namespace Flags

/-- The flags at the start of a pattern. -/
def initial : Flags := ⟨false, false, false, false, true, false, false⟩

/-- Sets the flag with a given letter. -/
def set? (f : Flags) (letter : Char) (on : Bool) : Option Flags :=
  match letter with
  | 'i' => some { f with caseless := on }
  | 'm' => some { f with multiLine := on }
  | 's' => some { f with dotAll := on }
  | 'U' => some { f with lazyByDefault := on }
  | 'u' => some { f with unicode := on }
  | 'R' => some { f with carriageReturns := on }
  | 'x' => some { f with extended := on }
  | _ => none

end Flags

/-- Flags that were read, and what follows them. -/
structure FlagsRead where
  flags : Flags
  /-- Whether nothing stood before the closing character. -/
  isEmpty : Bool
  /-- The closing character: `:` or `)`. -/
  closing : Char
  rest : List Char

/-- Reads flags up to a colon or a closing parenthesis.  Every letter and the dash may occur once,
and a letter must follow the dash. -/
def readFlags (flags : Flags) (seen : List Char) : List Char → Option FlagsRead
  | [] => none
  | c :: rest =>
    if c = ':' ∨ c = ')' then
      if seen.head? = some '-' then none else some ⟨flags, seen.isEmpty, c, rest⟩
    else if seen.contains c then none
    else if c = '-' then readFlags flags (c :: seen) rest
    else
      match flags.set? c (!seen.contains '-') with
      | some flags => readFlags flags (c :: seen) rest
      | none => none

/-! ## Blanks and comments -/

/-- Drops blanks and comments; inside of a comment, everything up to the end of the line. -/
def dropIgnored (inComment : Bool) : List Char → List Char
  | [] => []
  | c :: rest =>
    if inComment then dropIgnored (c != '\n') rest
    else if c = '#' then dropIgnored true rest
    else if Text.isBlank c then dropIgnored false rest
    else c :: rest

/-- Drops what is passed over between the parts of a pattern. -/
def Flags.skip (f : Flags) (s : List Char) : List Char :=
  if f.extended then dropIgnored false s else s

/-- Without the flag `x` nothing is passed over. -/
theorem Flags.skip_of_not_extended {f : Flags} (h : f.extended = false) (s : List Char) :
    f.skip s = s := by
  simp [skip, h]

end StyleObjects.Pattern
