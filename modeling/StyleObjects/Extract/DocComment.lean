import StyleObjects.Text.Blank

/-!
# Doc comments

A doc comment is a block from `/**` to the next `*/`; the comment `/**/` is an empty plain comment.
The body is read line by line without the margin of stars, and split into words.  A word of the
form `@name` opens a tag, and the words up to the next tag are its value.

Main results:

- `tagsOf_description`: words before the first tag are dropped.
-/

namespace StyleObjects

namespace DocComment

/-! ## Finding comments -/

/-- Where a scan of a source stands: outside of doc comments, or inside of one that was opened at
an offset, with its text so far in reverse. -/
inductive Place where
  | outside
  | inside (opened : Nat) (body : List Char)

/-- Scans the rest of a source that starts at an offset.  Gives the bodies of the doc comments, or
the offset of one that is never closed. -/
def scan (offset : Nat) : Place → List Char → Except Nat (List (List Char))
  | .outside, [] => .ok []
  | .inside opened _, [] => .error opened
  | .outside, c :: s =>
    match c, s with
    | '/', '*' :: '*' :: '/' :: rest => scan (offset + 4) .outside rest
    | '/', '*' :: '*' :: rest => scan (offset + 3) (.inside offset []) rest
    | _, s => scan (offset + 1) .outside s
  | .inside opened body, c :: s =>
    match c, s with
    | '*', '/' :: rest => (scan (offset + 2) .outside rest).map (body.reverse :: ·)
    | c, s => scan (offset + 1) (.inside opened (c :: body)) s

/-- The bodies of all doc comments of a source in order, or the offset of a doc comment that is
never closed. -/
def bodies (source : List Char) : Except Nat (List (List Char)) :=
  scan 0 .outside source

/-! ## Words -/

/-- A line without the blanks and the star at its start. -/
def dropMargin (line : List Char) : List Char :=
  match Text.trimStart line with
  | '*' :: rest => rest
  | line => line

/-- The words of a body. -/
def words (body : List Char) : List (List Char) :=
  (Text.lines body).flatMap fun line => Text.words (dropMargin line)

/-- Whether a character may stand in the name of a tag. -/
def isTagChar (c : Char) : Bool :=
  c.isAlphanum || c == '_' || c == '-'

/-- Whether a word opens a tag. -/
def isTag : List Char → Bool
  | '@' :: name => !name.isEmpty && name.all isTagChar
  | _ => false

/-! ## Tags -/

/-- The words up to the first tag, and the tags with the words after each. -/
def split : List (List Char) → List (List Char) × List (List Char × List (List Char))
  | [] => ([], [])
  | word :: rest =>
    let (before, tags) := split rest
    if isTag word then ([], (word, before) :: tags) else (word :: before, tags)

/-- The tags among words, each with the words after it. -/
def tagsOf (ws : List (List Char)) : List (List Char × List (List Char)) :=
  (split ws).2

/-- Words before the first tag are dropped. -/
theorem tagsOf_description {description ws : List (List Char)}
    (h : ∀ w ∈ description, isTag w = false) : tagsOf (description ++ ws) = tagsOf ws := by
  induction description with
  | nil => rfl
  | cons w rest ih =>
    have tail := ih fun v hv => h v (List.mem_cons_of_mem _ hv)
    simp only [tagsOf] at tail
    simp [tagsOf, split, h w List.mem_cons_self, tail]

end DocComment

/-- The tags of a doc comment with their values, in order. -/
structure DocComment where
  tags : List (String × String)
deriving DecidableEq, Repr, Inhabited

namespace DocComment

/-- Reads the body of a doc comment.  The words of a value are joined by single spaces. -/
def parse (body : List Char) : DocComment :=
  ⟨(tagsOf (words body)).map fun t =>
    (String.ofList t.1, String.ofList ([' '].intercalate t.2))⟩

/-- The name of a tag without at signs in front. -/
def bareName (tag : String) : List Char :=
  tag.toList.dropWhile (· == '@')

/-- Whether two tags have the same name. -/
def sameTag (a b : String) : Bool :=
  bareName a == bareName b

/-- The value of the first occurrence of a tag. -/
def value? (c : DocComment) (tag : String) : Option String :=
  (c.tags.find? fun t => sameTag t.1 tag).map (·.2)

/-- Whether a tag occurs. -/
def has (c : DocComment) (tag : String) : Bool :=
  c.tags.any fun t => sameTag t.1 tag

/-- Whether there are no tags. -/
def isEmpty (c : DocComment) : Bool :=
  c.tags.isEmpty

end DocComment

end StyleObjects
