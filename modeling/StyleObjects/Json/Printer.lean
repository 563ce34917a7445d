import StyleObjects.Json
import StyleObjects.Number.Notation

/-!
# Writing JSON

Trees are written without blanks, or with one item per line and two spaces per level.  Only quotes,
backslashes and control characters are escaped.
-/

namespace StyleObjects.Json

/-! ## Scalars -/

/-- Numbers are positional from `0.00001` up to below `10 ^ 16`, a whole number keeps a fraction of
zero, a tie goes to the even digit, and infinities and NaN have no notation. -/
def numbers : NumberNotation where
  positional power := -5 ≤ power ∧ power < 16
  wholeSuffix := ".0"
  tie := .even
  negativeZero := "-0.0"
  nan := "null"
  infinity := "null"
  negativeInfinity := "null"

/-- A hexadecimal digit. -/
def hexDigit (n : Nat) : Char :=
  if n < 10 then Char.ofNat ('0'.toNat + n) else Char.ofNat ('a'.toNat + (n - 10))

/-- How a character is written inside of quotes. -/
def writeChar (c : Char) : List Char :=
  match c with
  | '"' => ['\\', '"']
  | '\\' => ['\\', '\\']
  | '\n' => ['\\', 'n']
  | '\r' => ['\\', 'r']
  | '\t' => ['\\', 't']
  | '\x08' => ['\\', 'b']
  | '\x0c' => ['\\', 'f']
  | c =>
    if c.toNat < 0x20 then ['\\', 'u', '0', '0', hexDigit (c.toNat / 16), hexDigit (c.toNat % 16)]
    else [c]

/-- A string in quotes. -/
def writeString (s : String) : String :=
  String.ofList ('"' :: s.toList.flatMap writeChar ++ ['"'])

/-- A truth value. -/
def writeBool (b : Bool) : String :=
  if b then "true" else "false"

/-! ## Compact form -/

mutual

/-- Writes a tree without blanks. -/
def compact : Json → String
  | .array items => "[" ++ ",".intercalate (compactItems items) ++ "]"
  | .object members => "\x7b" ++ ",".intercalate (compactMembers members) ++ "\x7d"
  | .null => "null"
  | .bool b => writeBool b
  | .integer n => toString n
  | .real x => numbers.write x
  | .text s => writeString s

/-- The written items. -/
def compactItems : List Json → List String
  | [] => []
  | item :: rest => item.compact :: compactItems rest

/-- The written members. -/
def compactMembers : List (String × Json) → List String
  | [] => []
  | (name, value) :: rest => (writeString name ++ ":" ++ value.compact) :: compactMembers rest

end

/-! ## Indented form -/

/-- The blanks before a line at a level. -/
def margin (level : Nat) : String :=
  String.ofList (List.replicate (2 * level) ' ')

/-- Puts written parts on lines of their own, between the marks of a level. -/
def block (opening closing : String) (level : Nat) (parts : List String) : String :=
  if parts.isEmpty then opening ++ closing
  else
    opening ++ "\n" ++ ",\n".intercalate (parts.map (margin (level + 1) ++ ·)) ++
      "\n" ++ margin level ++ closing

mutual

/-- Writes a tree at a level with one item per line. -/
def indented (level : Nat) : Json → String
  | .array items => block "[" "]" level (indentedItems (level + 1) items)
  | .object members => block "\x7b" "\x7d" level (indentedMembers (level + 1) members)
  | .null => "null"
  | .bool b => writeBool b
  | .integer n => toString n
  | .real x => numbers.write x
  | .text s => writeString s

/-- The written items. -/
def indentedItems (level : Nat) : List Json → List String
  | [] => []
  | item :: rest => item.indented level :: indentedItems level rest

/-- The written members. -/
def indentedMembers (level : Nat) : List (String × Json) → List String
  | [] => []
  | (name, value) :: rest =>
    (writeString name ++ ": " ++ value.indented level) :: indentedMembers level rest

end

/-- Writes a tree with one item per line. -/
def pretty (j : Json) : String :=
  j.indented 0

end StyleObjects.Json
