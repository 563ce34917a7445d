import StyleObjects.Pattern.CharSet

/-!
# Patterns

A pattern matches stretches of a text.  From a place in the text it has a list of ends, in order of
preference: the first part of a choice comes before the second, and a greedy repetition prefers more
rounds to fewer.  A search takes the first place from which the pattern matches, and there the end
that is preferred.
-/

namespace StyleObjects

/-! ## Places -/

/-- A place in a text: how many characters come before it, the last of them, and what follows. -/
structure Place where
  index : Nat
  before : Option Char
  rest : List Char
deriving DecidableEq, Repr

/-- Keeps the first of several equal places, and drops those that were visited. -/
def distinctFrom (visited : Nat) : List Place → List Place
  | [] => []
  | p :: rest =>
    if visited.testBit p.index then distinctFrom visited rest
    else p :: distinctFrom (visited ||| 1 <<< p.index) rest

/-- Keeps the first of several equal places of one text. -/
def distinct (places : List Place) : List Place :=
  distinctFrom 0 places

/-! ## Repetition -/

/-- How far a repetition has been explored: the ends that were found, the latest first, and the
visited places as a set of bits. -/
structure Trail where
  found : List Place
  visited : Nat

namespace Trail

/-- The trail before the first round. -/
def empty : Trail := ⟨[], 0⟩

/-- Adds an end. -/
def add (t : Trail) (p : Place) : Trail :=
  { t with found := p :: t.found }

/-- Marks a place as visited. -/
def visit (t : Trail) (mark : Nat) : Trail :=
  { t with visited := t.visited ||| 1 <<< mark }

end Trail

/-- Explores a repetition from several places, one after the other, for at most `rounds` rounds.  A
place from which it was explored before is an end, but it is not explored again; so a round that
moves nowhere ends the repetition. -/
def explore (step : Place → List Place) (greedy : Bool) (mark : Nat → Place → Nat) :
    Nat → List Place → Trail → Trail
  | 0, places, t => places.foldl Trail.add t
  | rounds + 1, places, t =>
    places.foldl (fun t p =>
      if t.visited.testBit (mark rounds p) then t.add p
      else if greedy then
        (explore step greedy mark rounds (step p) (t.visit (mark rounds p))).add p
      else explore step greedy mark rounds (step p) ((t.visit (mark rounds p)).add p)) t

/-- The ends of a repetition of at least `least` and at most `most` rounds.  Rounds beyond `least`
are counted only if there is a bound, and only as long as there is text left. -/
def repeatedEnds (step : Place → List Place) (least : Nat) (most : Option Nat) (greedy : Bool)
    (p : Place) : List Place :=
  let start := Nat.repeat (fun places => distinct (places.flatMap step)) least [p]
  let enough := p.rest.length + 1
  let trail := match most with
    | none => explore step greedy (fun _ q => q.index) enough start .empty
    | some most =>
      let width := p.index + enough
      explore step greedy (fun round q => round * width + q.index) (min (most - least) enough) start
        .empty
  distinct trail.found.reverse

/-! ## Matching -/

/-- A condition on the characters before and after a place. -/
abbrev Assertion := Option Char → Option Char → Bool

/-- A pattern. -/
inductive Pattern where
  /-- Matches without moving. -/
  | empty
  /-- One character of a set. -/
  | one (set : CharSet)
  /-- A condition on the characters before and after a place. -/
  | assertion (holds : Assertion)
  /-- Two patterns one after the other. -/
  | concat (a b : Pattern)
  /-- One of two patterns, preferably the first. -/
  | either (a b : Pattern)
  /-- A pattern several times, preferably as often as possible if it is greedy. -/
  | repeated (a : Pattern) (least : Nat) (most : Option Nat) (greedy : Bool)

namespace Pattern

/-- The places where a match that starts at a place can end, in order of preference. -/
def ends : Pattern → Place → List Place
  | empty, p => [p]
  | one set, p =>
    match p.rest with
    | [] => []
    | c :: rest => if set c then [⟨p.index + 1, some c, rest⟩] else []
  | assertion holds, p => if holds p.before p.rest.head? then [p] else []
  | concat a b, p => distinct ((ends a p).flatMap (ends b))
  | either a b, p => distinct (ends a p ++ ends b p)
  | repeated a least most greedy, p => repeatedEnds (ends a) least most greedy p

/-- The number of single steps that a pattern unrolls to. -/
def steps : Pattern → Nat
  | empty => 1
  | one _ => 1
  | assertion _ => 1
  | concat a b => steps a + steps b
  | either a b => steps a + steps b + 1
  | repeated a least most _ => steps a * max 1 (most.getD least) + 1

/-- The sequence of some patterns. -/
def ofList : List Pattern → Pattern
  | [] => empty
  | first :: rest => rest.foldl concat first

end Pattern

/-! ## Searching -/

/-- A range of a text, from the character number `start` up to `stop`. -/
structure Range where
  start : Nat
  stop : Nat
deriving DecidableEq, Repr

/-- The part of a text that a range covers. -/
def Range.text (r : Range) (s : List Char) : List Char :=
  (s.drop r.start).take (r.stop - r.start)

namespace Pattern

/-- The preferred match that starts at a place. -/
def matchAt (x : Pattern) (p : Place) : Option Range :=
  (x.ends p).head?.map fun stop => ⟨p.index, stop.index⟩

/-- The first match in the rest of a text, which starts after `index` characters. -/
def findFrom (x : Pattern) (index : Nat) (before : Option Char) : List Char → Option Range
  | [] => x.matchAt ⟨index, before, []⟩
  | c :: rest =>
    match x.matchAt ⟨index, before, c :: rest⟩ with
    | some range => some range
    | none => findFrom x (index + 1) (some c) rest

/-- The first match in a text. -/
def find (x : Pattern) (s : List Char) : Option Range :=
  findFrom x 0 none s

end Pattern

end StyleObjects
