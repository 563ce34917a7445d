import StyleObjects.Yaml.Tag

/-!
# Tokens of YAML

A YAML text is cut into tokens.  Indentation opens and closes blocks, and a scalar, alias, property
or bracket that a colon follows on the same line turns out to be a key, so a token for the key is
put in front of it afterwards.  When a text breaks off, the tokens before the place that could still
be a key are known.
-/

namespace StyleObjects.Yaml

/-- A token of a YAML text. -/
inductive Token where
  | streamEnd
  | documentStart
  | documentEnd
  | directive (d : Directive)
  | blockSequenceStart
  | blockMappingStart
  | blockEnd
  | flowSequenceStart
  | flowSequenceEnd
  | flowMappingStart
  | flowMappingEnd
  | blockEntry
  | flowEntry
  | key
  | value
  | aliasOf (name : String)
  | anchor (name : String)
  | tag (t : Tag)
  | scalar (plain : Bool) (text : String)
deriving DecidableEq

/-- A token that a colon may turn into a key. -/
structure PendingKey where
  /-- Whether the text is refused if no colon follows. -/
  required : Bool
  /-- The number of tokens before it. -/
  token : Nat
  index : Nat
  line : Nat
  column : Nat

/-- The state of scanning. -/
structure Scan where
  cursor : Cursor
  tokens : Array Token
  /-- The number of open brackets. -/
  flow : Nat
  /-- The column of the innermost block, or -1. -/
  indent : Int
  /-- The columns of the blocks around it. -/
  indents : List Int
  /-- Whether a key may start here. -/
  keyAllowed : Bool
  /-- The possible key of every bracket level, innermost first. -/
  keys : List (Option PendingKey)

namespace Scan

/-- The state at the start of a text. -/
def start (text : List Char) : Scan where
  cursor := .start text
  tokens := #[]
  flow := 0
  indent := -1
  indents := []
  keyAllowed := true
  keys := [none]

/-- Whether the scan is inside of brackets. -/
def inFlow (s : Scan) : Bool :=
  0 < s.flow

/-- Adds a token. -/
def push (s : Scan) (t : Token) : Scan :=
  { s with tokens := s.tokens.push t }

/-- Puts a token in front of a later one. -/
def insertAt (s : Scan) (position : Nat) (t : Token) : Scan :=
  { s with tokens := s.tokens.insertIdxIfInBounds position t }

/-! ## Indentation -/

/-- Opens a block at a column, if the column is right of the innermost block.  The token goes to
`position`, or to the end. -/
def rollIndent (s : Scan) (column : Nat) (position : Option Nat) (t : Token) : Scan :=
  if s.inFlow || (column : Int) ≤ s.indent then s
  else
    let s := { s with indent := column, indents := s.indent :: s.indents }
    match position with
    | some n => s.insertAt n t
    | none => s.push t

/-- Closes the blocks right of a column. -/
def unrollBlocks (column : Int) (indent : Int) (tokens : Array Token) :
    List Int → Int × List Int × Array Token
  | [] => (indent, [], tokens)
  | outer :: rest =>
    if column < indent then unrollBlocks column outer (tokens.push .blockEnd) rest
    else (indent, outer :: rest, tokens)

/-- Closes the blocks right of a column, outside of brackets. -/
def unrollIndent (s : Scan) (column : Int) : Scan :=
  if s.inFlow then s
  else
    let (indent, indents, tokens) := unrollBlocks column s.indent s.tokens s.indents
    { s with indent, indents, tokens }

/-! ## Keys -/

/-- Drops the possible key of the innermost level, or fails if a colon had to follow it. -/
def removeKey (s : Scan) : Option Scan :=
  match s.keys with
  | some key :: rest => if key.required then none else some { s with keys := none :: rest }
  | _ => some s

/-- Notes that the next token may be a key. -/
def saveKey (s : Scan) : Option Scan :=
  if s.keyAllowed then do
    let s ← s.removeKey
    let key : PendingKey :=
      { required := !s.inFlow && s.indent == s.cursor.column
        token := s.tokens.size
        index := s.cursor.index
        line := s.cursor.line
        column := s.cursor.column }
    pure { s with keys := some key :: s.keys.tail }
  else some s

/-- Whether a possible key is too far back: on an earlier line, or over 1024 characters ago. -/
def isStale (c : Cursor) (key : PendingKey) : Bool :=
  key.line < c.line || key.index + 1024 < c.index

/-- Drops possible keys that are too far back, or fails if a colon had to follow one. -/
def dropStale (s : Scan) : Option Scan := do
  let keys ← s.keys.mapM fun key? =>
    match key? with
    | some key =>
      if isStale s.cursor key then (if key.required then none else some none) else some key?
    | none => some none
  pure { s with keys }

/-- The number of tokens that come before any possible key. -/
def known (s : Scan) : Nat :=
  s.keys.foldl (fun n key? => key?.elim n fun key => min n key.token) s.tokens.size

/-! ## Between tokens -/

/-- Passes over blanks, comments and line breaks up to the next token.  Tabs count as blanks only
where no key may start. -/
def toNextToken (s : Scan) : Nat → Scan
  | 0 => s
  | fuel + 1 =>
    let c := s.cursor
    let c := if c.column == 0 && c.peek 0 == some '\uFEFF' then c.next else c
    let tabs := s.inFlow || !s.keyAllowed
    let c := c.skipWhile fun d => d == ' ' || (tabs && d == '\t')
    let c := if c.peek 0 == some '#' then c.skipWhile (!isBreak ·) else c
    let s := { s with cursor := c }
    if (c.peek 0).any isBreak then
      toNextToken { s with cursor := c.nextLine, keyAllowed := s.keyAllowed || !s.inFlow } fuel
    else s

/-! ## Reading tokens -/

/-- Ends the text: all blocks are closed. -/
def finish (s : Scan) : Option Scan := do
  let s ← (s.unrollIndent (-1)).removeKey
  pure ({ s with keyAllowed := false }.push .streamEnd)

/-- Reads a directive. -/
def readDirective (s : Scan) : Option Scan := do
  let s ← (s.unrollIndent (-1)).removeKey
  let (d, cursor) ← Yaml.readDirective s.cursor
  pure ({ s with keyAllowed := false, cursor }.push (.directive d))

/-- Reads a marker between documents. -/
def readMarker (t : Token) (s : Scan) : Option Scan := do
  let s ← (s.unrollIndent (-1)).removeKey
  pure ({ s with keyAllowed := false, cursor := s.cursor.skip 3 }.push t)

/-- Reads an opening bracket. -/
def openFlow (t : Token) (s : Scan) : Option Scan := do
  let s ← s.saveKey
  pure ({ s with
    keys := none :: s.keys
    flow := s.flow + 1
    keyAllowed := true
    cursor := s.cursor.next }.push t)

/-- Reads a closing bracket. -/
def closeFlow (t : Token) (s : Scan) : Option Scan := do
  let s ← s.removeKey
  let s := if s.inFlow then { s with keys := s.keys.tail, flow := s.flow - 1 } else s
  pure ({ s with keyAllowed := false, cursor := s.cursor.next }.push t)

/-- Reads a comma. -/
def readFlowEntry (s : Scan) : Option Scan := do
  let s ← s.removeKey
  pure ({ s with keyAllowed := true, cursor := s.cursor.next }.push .flowEntry)

/-- Opens a block for an indicator, or fails where none may start. -/
def startBlock (t : Token) (s : Scan) : Option Scan :=
  if s.inFlow then some s
  else if s.keyAllowed then some (s.rollIndent s.cursor.column none t)
  else none

/-- Reads the dash of a sequence. -/
def readBlockEntry (s : Scan) : Option Scan := do
  let s ← s.startBlock .blockSequenceStart
  let s ← s.removeKey
  pure ({ s with keyAllowed := true, cursor := s.cursor.next }.push .blockEntry)

/-- Reads the question mark of a key. -/
def readKey (s : Scan) : Option Scan := do
  let s ← s.startBlock .blockMappingStart
  let s ← s.removeKey
  pure ({ s with keyAllowed := !s.inFlow, cursor := s.cursor.next }.push .key)

/-- Reads the colon of a value.  A possible key before it becomes a key. -/
def readValue (s : Scan) : Option Scan := do
  let s ←
    match s.keys with
    | some key :: rest =>
      let s := { s.insertAt key.token .key with keys := none :: rest }
      let s := s.rollIndent key.column (some key.token) .blockMappingStart
      some { s with keyAllowed := false }
    | _ => do
      let s ← s.startBlock .blockMappingStart
      pure { s with keyAllowed := !s.inFlow }
  pure ({ s with cursor := s.cursor.next }.push .value)

/-- Reads a token that may be a key, with a reader for the text after it. -/
def readPossibleKey (read : Cursor → Option (Token × Cursor)) (s : Scan) : Option Scan := do
  let s ← s.saveKey
  let (t, cursor) ← read s.cursor
  pure ({ s with keyAllowed := false, cursor }.push t)

/-- Reads a block scalar. -/
def readBlockScalar (literal : Bool) (s : Scan) : Option Scan := do
  let s ← s.removeKey
  let (text, cursor) ← Yaml.readBlockScalar literal s.indent s.cursor
  pure ({ s with keyAllowed := true, cursor }.push (.scalar false (String.ofList text)))

/-- Reads a plain scalar. -/
def readPlainScalar (s : Scan) : Option Scan := do
  let s ← s.saveKey
  let (text, cursor, moved) ← readPlain s.inFlow (s.indent + 1).toNat s.cursor
  pure ({ s with keyAllowed := moved, cursor }.push (.scalar true (String.ofList text)))

/-- Whether a plain scalar may start with `c` before `next`. -/
def startsPlain (inFlow : Bool) (c : Char) (next : Option Char) : Bool :=
  !(isSpacing c || "-?:,[]{}#&*!|>'\"%@\x60".toList.contains c) ||
    (c == '-' && !next.any isBlank) ||
    (!inFlow && (c == '?' || c == ':') && !endOr isSpacing next)

/-- Reads the next token, which starts with `d`. -/
def readToken (s : Scan) (d : Char) : Option Scan :=
  let c := s.cursor
  let alone := endOr isSpacing (c.peek 1)
  let quoted (single : Bool) (c : Cursor) : Option (Token × Cursor) :=
    (readQuoted single c).map fun r => (.scalar false (String.ofList r.1), r.2)
  if c.column == 0 && d == '%' then s.readDirective
  else if c.atMarker ['-', '-', '-'] then s.readMarker .documentStart
  else if c.atMarker ['.', '.', '.'] then s.readMarker .documentEnd
  else if d == '[' then s.openFlow .flowSequenceStart
  else if d == '{' then s.openFlow .flowMappingStart
  else if d == ']' then s.closeFlow .flowSequenceEnd
  else if d == '}' then s.closeFlow .flowMappingEnd
  else if d == ',' then s.readFlowEntry
  else if d == '-' && alone then s.readBlockEntry
  else if d == '?' && (s.inFlow || alone) then s.readKey
  else if d == ':' && (s.inFlow || alone) then s.readValue
  else if d == '*' then
    s.readPossibleKey fun c => (readAnchor c.next).map fun r => (.aliasOf r.1, r.2)
  else if d == '&' then
    s.readPossibleKey fun c => (readAnchor c.next).map fun r => (.anchor r.1, r.2)
  else if d == '!' then
    s.readPossibleKey fun c => (readTag s.inFlow c).map fun r => (.tag r.1, r.2)
  else if d == '|' && !s.inFlow then s.readBlockScalar true
  else if d == '>' && !s.inFlow then s.readBlockScalar false
  else if d == '\'' then s.readPossibleKey (quoted true)
  else if d == '"' then s.readPossibleKey (quoted false)
  else if startsPlain s.inFlow d (c.peek 1) then s.readPlainScalar
  else none

/-- Reads on by one token, or to the end of the text. -/
def step (s : Scan) : Option Scan := do
  let s ← (s.toNextToken (s.cursor.rest.length + 1)).dropStale
  let s := s.unrollIndent s.cursor.column
  match s.cursor.peek 0 with
  | none => s.finish
  | some d => s.readToken d

/-- Reads all tokens.  If the text is refused at some place, these are the tokens known before. -/
def run (s : Scan) : Nat → Array Token
  | 0 => #[]
  | fuel + 1 =>
    match s.dropStale with
    | none => s.tokens.extract 0 s.known
    | some s =>
      match s.step with
      | none => s.tokens.extract 0 s.known
      | some next => if next.tokens.back? = some .streamEnd then next.tokens else run next fuel

end Scan

/-- The tokens of a text, up to the end of it or to the place where it is refused. -/
def tokens (text : List Char) : List Token :=
  if text.all isAllowed then ((Scan.start text).run (text.length + 2)).toList else []

end StyleObjects.Yaml
