import StyleObjects.Unicode.Printable

/-!
# Quoted texts

A text in double quotes, as reports show it: line breaks, tabs, quotes and backslashes are escaped,
and a character that does not print is named by its code point.
-/

namespace StyleObjects.Text

/-- The characters that are escaped by a letter. -/
def namedEscapes : List (Char × Char) :=
  [('\x00', '0'), ('\t', 't'), ('\r', 'r'), ('\n', 'n'), ('"', '"'), ('\\', '\\')]

/-- How a character is shown inside of quotes. -/
def escape (c : Char) : List Char :=
  match namedEscapes.lookup c with
  | some letter => ['\\', letter]
  | none =>
    if Unicode.isPrintable c then [c]
    else ['\\', 'u', '{'] ++ Nat.toDigits 16 c.toNat ++ ['}']

/-- A text in quotes. -/
def quoted (s : String) : String :=
  String.ofList ('"' :: s.toList.flatMap escape ++ ['"'])

end StyleObjects.Text
