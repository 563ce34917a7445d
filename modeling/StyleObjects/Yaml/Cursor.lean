/-!
# Places in a YAML text

A cursor is a place in a text together with its line and column, which decide how blocks nest.
Line breaks are carriage return, line feed, both together, and the next-line, line-separator and
paragraph-separator characters; all but the last two are read as a line feed.

Main results:

- `Cursor.next_length`, `Cursor.nextLine_length`: moving on leaves a shorter rest.
-/

namespace StyleObjects.Yaml

/-! ## Character classes -/

/-- Whether a character may stand in a YAML text. -/
def isAllowed (c : Char) : Bool :=
  let n := c.toNat
  n == 0x09 || n == 0x0A || n == 0x0D || (0x20 ≤ n && n ≤ 0x7E) || n == 0x85 ||
    (0xA0 ≤ n && n ≤ 0xFFFD) || 0x10000 ≤ n

/-- Whether a character ends a line. -/
def isBreak (c : Char) : Bool :=
  c == '\n' || c == '\r' || c == '\u0085' || c == '\u2028' || c == '\u2029'

/-- Whether a character is a space or a tab. -/
def isBlank (c : Char) : Bool :=
  c == ' ' || c == '\t'

/-- Whether a character is blank or ends a line. -/
def isSpacing (c : Char) : Bool :=
  isBlank c || isBreak c

/-- Whether a character may stand in a name. -/
def isNameChar (c : Char) : Bool :=
  c.isAlphanum || c == '_' || c == '-'

/-- Whether nothing follows, or what follows satisfies a test. -/
def endOr (test : Char → Bool) (c : Option Char) : Bool :=
  c.all test

/-! ## Cursors -/

/-- A place in a text. -/
structure Cursor where
  /-- The text from this place on. -/
  rest : List Char
  /-- The number of characters before it. -/
  index : Nat
  line : Nat
  column : Nat

namespace Cursor

/-- The start of a text. -/
def start (text : List Char) : Cursor := ⟨text, 0, 0, 0⟩

/-- The character at an offset from the cursor. -/
def peek (c : Cursor) (offset : Nat) : Option Char :=
  c.rest[offset]?

/-- The cursor after one character of the same line. -/
def next (c : Cursor) : Cursor :=
  { c with rest := c.rest.tail, index := c.index + 1, column := c.column + 1 }

/-- The cursor after several characters of the same line. -/
def skip (c : Cursor) (n : Nat) : Cursor :=
  { c with rest := c.rest.drop n, index := c.index + n, column := c.column + n }

/-- The cursor after the characters that satisfy a test. -/
def skipWhile (c : Cursor) (test : Char → Bool) : Cursor :=
  c.skip (c.rest.takeWhile test).length

/-- The cursor after a line break. -/
def nextLine (c : Cursor) : Cursor :=
  match c.rest with
  | '\r' :: '\n' :: rest => ⟨rest, c.index + 2, c.line + 1, 0⟩
  | rest => ⟨rest.tail, c.index + 1, c.line + 1, 0⟩

/-- Whether the cursor stands at the end of the text. -/
def atEnd (c : Cursor) : Bool :=
  c.rest.isEmpty

/-- Whether a marker of three characters stands alone at the start of this line. -/
def atMarker (c : Cursor) (marker : List Char) : Bool :=
  c.column == 0 && marker.isPrefixOf c.rest && endOr isSpacing (c.peek 3)

/-- Whether a marker between documents stands here. -/
def atDocumentMarker (c : Cursor) : Bool :=
  c.atMarker ['-', '-', '-'] || c.atMarker ['.', '.', '.']

/-- Moving on by a character leaves a shorter rest. -/
theorem next_length {c : Cursor} {d : Char} {s : List Char} (h : c.rest = d :: s) :
    c.next.rest.length < c.rest.length := by
  simp [next, h]

/-- Moving on by a line break leaves a shorter rest. -/
theorem nextLine_length {c : Cursor} {d : Char} {s : List Char} (h : c.rest = d :: s) :
    c.nextLine.rest.length < c.rest.length := by
  unfold nextLine
  split
  · rename_i two
    simp only [two, List.length_cons]
    omega
  · simp [h]

end Cursor

/-! ## Gaps -/

/-- The character that a line break is read as. -/
def breakChar (c : Char) : Char :=
  if c == '\u2028' || c == '\u2029' then c else '\n'

/-- Blanks and line breaks between two pieces of a scalar. -/
structure Gap where
  /-- The blanks before the first line break. -/
  blanks : List Char
  /-- The line breaks. -/
  breaks : List Char
  /-- Whether an escaped line break comes before all of this. -/
  escaped : Bool

namespace Gap

/-- No gap. -/
def none : Gap := ⟨[], [], false⟩

/-- Whether the gap goes over to another line. -/
def isBroken (g : Gap) : Bool :=
  g.escaped || !g.breaks.isEmpty

/-- What a gap is read as: a single line break becomes a space, and of several line breaks the
first is dropped.  Separators of lines and paragraphs stay, and so does all after an escaped line
break. -/
def text (g : Gap) : List Char :=
  if g.escaped then g.breaks
  else
    match g.breaks with
    | [] => g.blanks
    | ['\n'] => [' ']
    | '\n' :: more => more
    | breaks => breaks

/-- Reads a gap on from the cursor, or fails at a tab before column `limit` of a later line. -/
def read (limit : Nat) (g : Gap) (c : Cursor) : Option (Gap × Cursor) :=
  match _h : c.rest with
  | [] => some (g, c)
  | d :: _ =>
    if isBlank d then
      if g.isBroken then
        if d = '\t' ∧ c.column < limit then Option.none else read limit g c.next
      else read limit { g with blanks := g.blanks ++ [d] } c.next
    else if isBreak d then read limit { g with breaks := g.breaks ++ [breakChar d] } c.nextLine
    else some (g, c)
termination_by c.rest.length
decreasing_by
  · exact Cursor.next_length ‹_›
  · exact Cursor.next_length ‹_›
  · exact Cursor.nextLine_length ‹_›

end Gap

end StyleObjects.Yaml
