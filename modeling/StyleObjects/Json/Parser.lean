import StyleObjects.Json.Token

/-!
# Reading JSON

The tokens of a text are read from left to right, with a stack of the arrays and objects that are
still open.  Nesting is limited to 127 levels.
-/

namespace StyleObjects.Json

/-- An array or object that is still open, with what it holds so far, latest first. -/
inductive Frame where
  | array (items : List Json)
  | object (members : List (String × Json)) (name : String)

/-- What may come next inside of an open array or object. -/
inductive Expect where
  | value
  | valueOrClose
  | name
  | nameOrClose
  | colon
  | separator
deriving DecidableEq

/-- The state of reading: inside of open levels, innermost first, or done. -/
inductive Progress where
  | within (stack : List Frame) (expect : Expect)
  | done (value : Json)

/-- The number of levels that a text may nest. -/
def maxDepth : Nat := 127

/-- Hands a complete value to the level around it. -/
def complete (value : Json) : List Frame → Progress
  | [] => .done value
  | .array items :: stack => .within (.array (value :: items) :: stack) .separator
  | .object members name :: stack =>
    .within (.object ((name, value) :: members) name :: stack) .separator

/-- Opens a level, unless there are too many. -/
def enter (frame : Frame) (expect : Expect) (stack : List Frame) : Option Progress :=
  if stack.length < maxDepth then some (.within (frame :: stack) expect) else none

/-- Reads a token that may start a value. -/
def startValue (stack : List Frame) : Token → Option Progress
  | .scalar value => some (complete value stack)
  | .openArray => enter (.array []) .valueOrClose stack
  | .openObject => enter (.object [] "") .nameOrClose stack
  | _ => none

/-- Reads a name of an object. -/
def startMember : List Frame → Token → Option Progress
  | .object members _ :: stack, .scalar (.text name) =>
    some (.within (.object members name :: stack) .colon)
  | _, _ => none

/-- Closes the innermost level. -/
def close : List Frame → Token → Option Progress
  | .array items :: stack, .closeArray => some (complete (.array items.reverse) stack)
  | .object members _ :: stack, .closeObject => some (complete (.object members.reverse) stack)
  | _, _ => none

/-- Goes on to the next item or member. -/
def separate : List Frame → Token → Option Progress
  | .array items :: stack, .comma => some (.within (.array items :: stack) .value)
  | .object members name :: stack, .comma => some (.within (.object members name :: stack) .name)
  | _, _ => none

/-- Reads one token. -/
def step (progress : Progress) (token : Token) : Option Progress :=
  match progress with
  | .done _ => none
  | .within stack expect =>
    match expect with
    | .value => startValue stack token
    | .valueOrClose => (close stack token).or (startValue stack token)
    | .name => startMember stack token
    | .nameOrClose => (close stack token).or (startMember stack token)
    | .colon =>
      match token with
      | .colon => some (.within stack .value)
      | _ => none
    | .separator => (close stack token).or (separate stack token)

/-- The tree that a sequence of tokens writes. -/
def ofTokens? (ts : List Token) : Option Json :=
  match ts.foldlM step (.within [] .value) with
  | some (.done value) => some value
  | _ => none

/-- The tree that a text writes, or nothing if the text is not JSON. -/
def parse? (text : String) : Option Json :=
  (tokens text.toList).bind ofTokens?

end StyleObjects.Json
