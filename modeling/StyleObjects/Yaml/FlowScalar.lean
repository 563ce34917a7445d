import StyleObjects.Json.Token
import StyleObjects.Yaml.Cursor

/-!
# Plain and quoted scalars

A plain scalar runs to an indicator or to the end of its block; a quoted scalar runs to its closing
quote.  Both may go over several lines, which are folded.
-/

namespace StyleObjects.Yaml

/-! ## Plain scalars -/

/-- Whether a character always ends a plain scalar inside of brackets. -/
def isFlowIndicator (c : Char) : Bool :=
  c == ',' || c == '[' || c == ']' || c == '{' || c == '}'

/-- The characters of a plain scalar up to the next blank or line break, or a failure at a colon
that touches an indicator inside of brackets. -/
def plainRun (inFlow : Bool) : List Char → Option (List Char)
  | [] => some []
  | c :: s =>
    if isSpacing c then some []
    else if inFlow && c == ':' && s.head?.any (fun d => isFlowIndicator d || d == '?') then none
    else if (c == ':' && endOr isSpacing s.head?) || (inFlow && isFlowIndicator c) then some []
    else (plainRun inFlow s).map (c :: ·)

/-- Reads pieces of a plain scalar, each after the gap before it.  Gives the text, the cursor after
it, and whether the cursor is on a later line than the last piece. -/
def plainPieces (inFlow : Bool) (limit : Nat) (gap : Gap) (c : Cursor) :
    Nat → Option (List Char × Cursor × Bool)
  | 0 => none
  | fuel + 1 =>
    if c.atDocumentMarker || c.peek 0 == some '#' then some ([], c, gap.isBroken)
    else do
      let run ← plainRun inFlow c.rest
      let text := if run.isEmpty then [] else gap.text ++ run
      let after := c.skip run.length
      let broken := if run.isEmpty then gap.isBroken else false
      if after.peek 0 |>.any isSpacing then
        let (nextGap, resumed) ← Gap.none.read limit after
        if !inFlow && resumed.column < limit then pure (text, resumed, nextGap.isBroken)
        else
          let (more, final, moved) ← plainPieces inFlow limit nextGap resumed fuel
          pure (text ++ more, final, moved)
      else pure (text, after, broken)

/-- Reads a plain scalar whose later lines are indented by `limit` columns at least. -/
def readPlain (inFlow : Bool) (limit : Nat) (c : Cursor) :
    Option (List Char × Cursor × Bool) :=
  plainPieces inFlow limit Gap.none c (c.rest.length + 1)

/-! ## Quoted scalars -/

/-- The characters that an escape of one character stands for. -/
def simpleEscapes : List (Char × Char) :=
  [('0', '\x00'), ('a', '\x07'), ('b', '\x08'), ('t', '\t'), ('\t', '\t'), ('n', '\n'),
    ('v', '\x0b'), ('f', '\x0c'), ('r', '\r'), ('e', '\x1b'), (' ', ' '), ('"', '"'), ('/', '/'),
    ('\\', '\\'), ('N', '\u0085'), ('_', '\u00a0'), ('L', '\u2028'), ('P', '\u2029')]

/-- The number of hexadecimal digits after a letter. -/
def escapeWidth? : Char → Option Nat
  | 'x' => some 2
  | 'u' => some 4
  | 'U' => some 8
  | _ => none

/-- The number that hexadecimal digits write. -/
def hexNumber? (digits : List Char) : Option Nat :=
  digits.foldlM (fun n d => (Json.hexDigit? d).map (n * 16 + ·)) 0

/-- Reads an escape after its backslash. -/
def readEscape (c : Cursor) : Option (Char × Cursor) := do
  let letter ← c.peek 0
  match simpleEscapes.lookup letter with
  | some value => pure (value, c.next)
  | none =>
    let width ← escapeWidth? letter
    let digits := (c.rest.drop 1).take width
    let n ← hexNumber? digits
    if digits.length ≠ width ∨ (0xD800 ≤ n ∧ n ≤ 0xDFFF) ∨ 0x10FFFF < n then none
    else pure (Char.ofNat n, c.skip (width + 1))

/-- Reads the characters of a quoted scalar up to a blank, a line break or the closing quote.  The
flag tells of an escaped line break. -/
def quotedRun (single : Bool) (c : Cursor) : Nat → Option (List Char × Cursor × Bool)
  | 0 => none
  | fuel + 1 =>
    match c.rest with
    | [] => some ([], c, false)
    | d :: s =>
      if isSpacing d then some ([], c, false)
      else if single && d == '\'' then
        if s.head? == some '\'' then do
          let (text, final, escaped) ← quotedRun single (c.skip 2) fuel
          pure ('\'' :: text, final, escaped)
        else some ([], c, false)
      else if !single && d == '"' then some ([], c, false)
      else if !single && d == '\\' then
        if s.head?.any isBreak then some ([], c.next.nextLine, true)
        else do
          let (value, after) ← readEscape c.next
          let (text, final, escaped) ← quotedRun single after fuel
          pure (value :: text, final, escaped)
      else do
        let (text, final, escaped) ← quotedRun single c.next fuel
        pure (d :: text, final, escaped)

/-- Reads runs and gaps up to the closing quote. -/
def quotedPieces (single : Bool) (c : Cursor) : Nat → Option (List Char × Cursor)
  | 0 => none
  | fuel + 1 =>
    if c.atDocumentMarker || c.atEnd then none
    else do
      let (text, after, escaped) ← quotedRun single c (c.rest.length + 1)
      if !escaped && after.peek 0 == some (if single then '\'' else '"') then
        pure (text, after.next)
      else
        let (gap, resumed) ← Gap.read 0 { Gap.none with escaped } after
        let (more, final) ← quotedPieces single resumed fuel
        pure (text ++ gap.text ++ more, final)

/-- Reads a quoted scalar from its opening quote on. -/
def readQuoted (single : Bool) (c : Cursor) : Option (List Char × Cursor) :=
  quotedPieces single c.next (c.rest.length + 1)

end StyleObjects.Yaml
