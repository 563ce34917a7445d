import StyleObjects.Pattern

/-!
# Assertions

An assertion is a condition on the characters around a place: the start or end of the text or of a
line, or an edge of a word.
-/

namespace StyleObjects

namespace Assertion

/-- The start of the text. -/
def textStart : Assertion := fun before _ => before.isNone

/-- The end of the text. -/
def textEnd : Assertion := fun _ after => after.isNone

/-- The start of a line, which comes after a line feed.  If carriage returns count, it also comes
after one that is not followed by a line feed. -/
def lineStart (carriageReturns : Bool) : Assertion := fun before after =>
  before.isNone || before == some '\n' ||
    (carriageReturns && before == some '\r' && after != some '\n')

/-- The end of a line, which comes before a line feed.  If carriage returns count, it comes before a
carriage return, and not between one and a line feed. -/
def lineEnd (carriageReturns : Bool) : Assertion := fun before after =>
  after.isNone ||
    if carriageReturns then after == some '\r' || (after == some '\n' && before != some '\r')
    else after == some '\n'

/-- A condition on whether there are word characters before and after a place. -/
def edge (isWord : CharSet) (accepts : Bool → Bool → Bool) : Assertion := fun before after =>
  accepts (before.any isWord) (after.any isWord)

/-- The edges of words that are written with a name in braces. -/
def namedEdges : List (String × (Bool → Bool → Bool)) :=
  [("start", fun before after => !before && after),
  ("end", fun before after => before && !after),
  ("start-half", fun before _ => !before),
  ("end-half", fun _ after => !after)]

end Assertion

end StyleObjects
