/-!
# Character spans

Sets of characters and maps between characters, written as short tables.  A span names every
`step`-th code point of an interval, so that scripts which alternate capital and small letters take
one row.
-/

namespace StyleObjects.Unicode

/-- The code points `first`, `first + step`, and so on up to `last`. -/
structure Span where
  first : Nat
  last : Nat
  step : Nat
deriving DecidableEq, Repr

/-- Whether a code point lies on the span. -/
def Span.covers (s : Span) (n : Nat) : Bool :=
  s.first ≤ n && n ≤ s.last && (n - s.first) % s.step == 0

/-- Whether some span of a table covers the character. -/
def covered (table : List Span) (c : Char) : Bool :=
  table.any (·.covers c.toNat)

/-- A span whose code points are all moved by one distance. -/
structure Shift extends Span where
  distance : Int
deriving DecidableEq, Repr

/-- The code point that a shift carries `n` to. -/
def Shift.move (s : Shift) (n : Nat) : Nat :=
  (n + s.distance).toNat

/-- The character that the first covering row of a table carries `c` to, or `c` itself. -/
def shifted (table : List Shift) (c : Char) : Char :=
  match table.find? (·.covers c.toNat) with
  | some row => Char.ofNat (row.move c.toNat)
  | none => c

/-- The code points of a shift that are carried to `target`: at most one. -/
def Shift.sources (s : Shift) (target : Nat) : List Nat :=
  let source := (target - s.distance).toNat
  if s.covers source && s.move source == target then [source] else []

end StyleObjects.Unicode
