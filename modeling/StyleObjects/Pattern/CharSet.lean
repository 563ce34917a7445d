import StyleObjects.Unicode.Folding
import StyleObjects.Unicode.Property

/-!
# Character sets

A character set is given by its membership test.  Sets are built from spans and named classes by
union, intersection, difference and complement; a set can be closed under case variants.
-/

namespace StyleObjects

/-- A set of characters. -/
abbrev CharSet := Char → Bool

namespace CharSet

/-! ## Building sets -/

/-- The set without members. -/
def none : CharSet := fun _ => false

/-- The set of all characters. -/
def all : CharSet := fun _ => true

/-- The set of one character. -/
def single (a : Char) : CharSet := fun c => c == a

/-- The characters from `first` to `last`. -/
def span (first last : Char) : CharSet := fun c => first ≤ c && c ≤ last

/-- The characters of a text. -/
def ofString (s : String) : CharSet := fun c => s.toList.contains c

/-- The members of either set. -/
def union (a b : CharSet) : CharSet := fun c => a c || b c

/-- The members of both sets. -/
def inter (a b : CharSet) : CharSet := fun c => a c && b c

/-- The members of the first set that are not in the second. -/
def diff (a b : CharSet) : CharSet := fun c => a c && !b c

/-- The members of exactly one of two sets. -/
def symmDiff (a b : CharSet) : CharSet := fun c => a c != b c

/-- The characters that are not members. -/
def compl (a : CharSet) : CharSet := fun c => !a c

/-- A set, or the characters that are not members. -/
def negateIf (negated : Bool) (a : CharSet) : CharSet :=
  if negated then a.compl else a

/-! ## Letter case -/

/-- The characters that have a case variant in the set. -/
def caseless (a : CharSet) : CharSet := fun c => (Unicode.caseVariants c).any a

/-- The other case of an ASCII letter. -/
def otherCase (c : Char) : Char :=
  if 'a' ≤ c && c ≤ 'z' then Char.ofNat (c.toNat - 32)
  else if 'A' ≤ c && c ≤ 'Z' then Char.ofNat (c.toNat + 32)
  else c

/-- The characters that are in the set themselves or in the other case, among ASCII letters. -/
def caselessAscii (a : CharSet) : CharSet := fun c => a c || a (otherCase c)

/-! ## ASCII classes -/

/-- The ASCII characters. -/
def ascii : CharSet := span '\x00' '\x7f'

/-- The small letters of ASCII. -/
def lower : CharSet := span 'a' 'z'

/-- The capital letters of ASCII. -/
def upper : CharSet := span 'A' 'Z'

/-- The digits of ASCII. -/
def digit : CharSet := span '0' '9'

/-- The letters of ASCII. -/
def alpha : CharSet := union upper lower

/-- The letters and digits of ASCII. -/
def alnum : CharSet := union digit alpha

/-- The ASCII letters, digits and the underscore. -/
def asciiWord : CharSet := union alnum (single '_')

/-- The blanks of ASCII. -/
def asciiSpace : CharSet := union (span '\t' '\r') (single ' ')

/-- The printed characters of ASCII. -/
def graph : CharSet := span '!' '~'

/-- The classes that can be named inside of brackets. -/
def bracketClasses : List (String × CharSet) :=
  [("alnum", alnum), ("alpha", alpha), ("ascii", ascii), ("blank", ofString "\t "),
  ("cntrl", union (span '\x00' '\x1f') (single '\x7f')), ("digit", digit), ("graph", graph),
  ("lower", lower), ("print", span ' ' '~'), ("punct", diff graph alnum), ("space", asciiSpace),
  ("upper", upper), ("word", asciiWord),
  ("xdigit", union digit (union (span 'A' 'F') (span 'a' 'f')))]

end CharSet

end StyleObjects
