import StyleObjects.Yaml.FlowScalar
import StyleObjects.Yaml.BlockScalar

/-!
# Anchors, tags and directives

The parts of a YAML text that name things: anchors and aliases, the tags of nodes, and the
directives before a document.
-/

namespace StyleObjects.Yaml

/-! ## Anchors -/

/-- Whether a character may follow the name of an anchor. -/
def endsAnchor (c : Char) : Bool :=
  isSpacing c || c == '?' || c == ':' || c == ',' || c == ']' || c == '}' || c == '%' ||
    c == '@' || c == '\x60'

/-- Reads the name of an anchor or alias after its indicator. -/
def readAnchor (c : Cursor) : Option (String × Cursor) :=
  let name := c.rest.takeWhile isNameChar
  let after := c.skip name.length
  if name.isEmpty || !endOr endsAnchor (after.peek 0) then none
  else some (String.ofList name, after)

/-! ## Tags -/

/-- Whether a character may stand in a tag; commas and brackets only in a tag in full. -/
def isUriChar (full : Bool) (c : Char) : Bool :=
  isNameChar c || ";/?:@&=+$.%!~*'()".toList.contains c || (full && ",[]".toList.contains c)

/-- Reads the bytes that percent signs escape, at most `count` of them. -/
def readOctets (c : Cursor) : Nat → Option (List Nat × Cursor)
  | 0 => some ([], c)
  | count + 1 =>
    match c.rest with
    | '%' :: a :: b :: _ => do
      let high ← Json.hexDigit? a
      let low ← Json.hexDigit? b
      let (more, final) ← readOctets (c.skip 3) count
      pure ((high * 16 + low) :: more, final)
    | _ => none

/-- The number of bytes of a character that starts with a given byte. -/
def octetCount? (first : Nat) : Option Nat :=
  if first < 0x80 then some 1
  else if first < 0xC0 then none
  else if first < 0xE0 then some 2
  else if first < 0xF0 then some 3
  else if first < 0xF8 then some 4
  else none

/-- Reads one character escaped byte by byte. -/
def readEscapedChar (c : Cursor) : Option (Char × Cursor) := do
  let (first, _) ← readOctets c 1
  let count ← octetCount? (first.headD 0)
  let (octets, final) ← readOctets c count
  if octets.tail.any fun n => n < 0x80 || 0xC0 ≤ n then none
  else do
    let text ← String.fromUTF8? (ByteArray.mk (octets.map UInt8.ofNat).toArray)
    let char ← text.toList.head?
    pure (char, final)

/-- Reads the characters of a tag. -/
def uriChars (full : Bool) (c : Cursor) : Nat → Option (List Char × Cursor)
  | 0 => none
  | fuel + 1 =>
    match c.peek 0 with
    | some d =>
      if d == '%' then do
        let (char, after) ← readEscapedChar c
        let (more, final) ← uriChars full after fuel
        pure (char :: more, final)
      else if isUriChar full d then do
        let (more, final) ← uriChars full c.next fuel
        pure (d :: more, final)
      else some ([], c)
    | none => some ([], c)

/-- Reads a tag of which `head` has been read already. -/
def readUri (full : Bool) (head : List Char) (c : Cursor) : Option (List Char × Cursor) := do
  let (more, final) ← uriChars full c (c.rest.length + 1)
  if head.isEmpty && more.isEmpty then none else pure (head.tail ++ more, final)

/-- Reads a handle: an exclamation mark, a name, and another exclamation mark if there is one. -/
def readHandle (c : Cursor) : Option (List Char × Cursor) :=
  if c.peek 0 == some '!' then
    let name := c.next.rest.takeWhile isNameChar
    let after := c.next.skip name.length
    if after.peek 0 == some '!' then some ('!' :: name ++ ['!'], after.next)
    else some ('!' :: name, after)
  else none

/-- A tag as it is written. -/
structure Tag where
  handle : List Char
  suffix : List Char
deriving DecidableEq

/-- Reads a tag in full, between angle brackets. -/
def readFullTag (c : Cursor) : Option (Tag × Cursor) := do
  let (suffix, after) ← readUri true [] (c.skip 2)
  if after.peek 0 == some '>' then pure (⟨[], suffix⟩, after.next) else none

/-- Reads a tag with a handle. -/
def readShortTag (c : Cursor) : Option (Tag × Cursor) := do
  let (handle, after) ← readHandle c
  if 2 ≤ handle.length ∧ handle.getLast? = some '!' then do
    let (suffix, final) ← readUri false [] after
    pure (⟨handle, suffix⟩, final)
  else do
    let (suffix, final) ← readUri false handle after
    pure (if suffix.isEmpty then ⟨[], ['!']⟩ else ⟨['!'], suffix⟩, final)

/-- Reads a tag. -/
def readTag (inFlow : Bool) (c : Cursor) : Option (Tag × Cursor) := do
  let (tag, after) ← if c.peek 1 == some '<' then readFullTag c else readShortTag c
  if (inFlow && after.peek 0 == some ',') || endOr isSpacing (after.peek 0) then
    pure (tag, after)
  else none

/-! ## Directives -/

/-- A directive before a document. -/
inductive Directive where
  | version (major minor : Nat)
  | tag (handle start : List Char)
deriving DecidableEq

/-- Reads a number of at most nine digits. -/
def readVersionPart (c : Cursor) : Option (Nat × Cursor) :=
  let digits := c.rest.takeWhile Json.isDigit
  if digits.isEmpty || 9 < digits.length then none
  else some (digits.foldl (fun n d => n * 10 + (d.toNat - '0'.toNat)) 0, c.skip digits.length)

/-- Reads the value of a version directive. -/
def readVersion (c : Cursor) : Option (Directive × Cursor) := do
  let (major, c) ← readVersionPart (c.skipWhile isBlank)
  if c.peek 0 == some '.' then do
    let (minor, c) ← readVersionPart c.next
    pure (.version major minor, c)
  else none

/-- Reads the value of a tag directive. -/
def readTagDirective (c : Cursor) : Option (Directive × Cursor) := do
  let (handle, c) ← readHandle (c.skipWhile isBlank)
  if handle ≠ ['!'] ∧ handle.getLast? ≠ some '!' then none
  else if !(c.peek 0).any isBlank then none
  else do
    let (start, c) ← readUri true [] (c.skipWhile isBlank)
    if endOr isSpacing (c.peek 0) then pure (.tag handle start, c) else none

/-- Reads a directive and the rest of its line. -/
def readDirective (c : Cursor) : Option (Directive × Cursor) := do
  let name := c.next.rest.takeWhile isNameChar
  let c := c.next.skip name.length
  if !endOr isSpacing (c.peek 0) then none
  else do
    let (directive, c) ←
      if name = "YAML".toList then readVersion c
      else if name = "TAG".toList then readTagDirective c
      else none
    let c ← endOfLine c
    pure (directive, c)

end StyleObjects.Yaml
