import StyleObjects.Unicode.LetterCase

/-!
# Kebab case

Names written in camel case become lowercase words joined by dashes.  A capital starts a word after
a small letter or a digit, and so does the last capital of a run when a small letter follows it.
Spaces and underscores become dashes, except at the start and after another dash.
-/

namespace StyleObjects.Kebab

open Unicode

/-- Whether a capital between `previous` and `next` starts a word. -/
def startsWord (previous : Char) (next : Option Char) : Bool :=
  isLower previous || ('0' ≤ previous && previous ≤ '9') ||
    (isUpper previous && next.any isLower)

/-- Whether `c` is one of the characters that separate words. -/
def isSeparator (c : Char) : Bool :=
  c == ' ' || c == '_'

/-- What is written for `c`, where `previous` is the character before it and `written` the last
character written so far. -/
def piece (previous written : Option Char) (c : Char) (next : Option Char) : List Char :=
  if isSeparator c then
    if written = none ∨ written = some '-' then [] else ['-']
  else if isUpper c && previous.any (startsWord · next) && written != some '-' then
    '-' :: lower c
  else
    lower c

/-- Writes the rest of a name. -/
def writeFrom (previous written : Option Char) : List Char → List Char
  | [] => []
  | c :: s =>
    let out := piece previous written c s.head?
    out ++ writeFrom (some c) (out.getLast?.or written) s

/-- The kebab case of a name, as characters. -/
def write (name : List Char) : List Char :=
  writeFrom none none name

end StyleObjects.Kebab

namespace StyleObjects

/-- The kebab case of a name. -/
def kebabCase (name : String) : String :=
  String.ofList (Kebab.write name.toList)

end StyleObjects
