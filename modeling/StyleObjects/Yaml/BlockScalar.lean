import StyleObjects.Yaml.Cursor

/-!
# Block scalars

A literal scalar keeps its line breaks; a folded one joins lines by spaces, except around lines
that start with a blank.  The indentation is given in the header or found from the first line that
is not empty, and the header says what becomes of the line breaks at the end.
-/

namespace StyleObjects.Yaml

/-- What becomes of the line breaks at the end of a block scalar. -/
inductive Chomping where
  /-- All are dropped. -/
  | strip
  /-- One is kept. -/
  | clip
  /-- All are kept. -/
  | keep
deriving DecidableEq

/-- The header of a block scalar. -/
structure BlockHeader where
  chomping : Chomping
  /-- The indentation relative to the block around it. -/
  increment : Option Nat

/-- Reads a chomping indicator. -/
def readChomping (c : Cursor) : Option (Chomping × Cursor) :=
  match c.peek 0 with
  | some '+' => some (.keep, c.next)
  | some '-' => some (.strip, c.next)
  | _ => none

/-- Reads an indentation indicator, or fails at a zero. -/
def readIncrement (c : Cursor) : Option (Option Nat × Cursor) :=
  match c.peek 0 with
  | some d =>
    if d == '0' then none
    else if '1' ≤ d && d ≤ '9' then some (some (d.toNat - '0'.toNat), c.next)
    else some (none, c)
  | none => some (none, c)

/-- Reads the indicators of a header, in either order. -/
def readIndicators (c : Cursor) : Option (BlockHeader × Cursor) :=
  match readChomping c with
  | some (chomping, c) => do
    let (increment, c) ← readIncrement c
    pure (⟨chomping, increment⟩, c)
  | none => do
    let (increment, c) ← readIncrement c
    if increment.isNone then pure (⟨.clip, none⟩, c)
    else
      match readChomping c with
      | some (chomping, c) => pure (⟨chomping, increment⟩, c)
      | none => pure (⟨.clip, increment⟩, c)

/-- Passes over blanks, a comment and the end of the line, or fails at anything else. -/
def endOfLine (c : Cursor) : Option Cursor :=
  let c := c.skipWhile isBlank
  let c := if c.peek 0 == some '#' then c.skipWhile (!isBreak ·) else c
  match c.peek 0 with
  | none => some c
  | some d => if isBreak d then some c.nextLine else none

/-- Reads empty lines and the indentation of the line after them.  Without a known indentation all
spaces are passed over, and the widest line counts.  A tab within the indentation is a failure. -/
def readEmptyLines (indent : Option Nat) (widest : Nat) (breaks : List Char) (c : Cursor) :
    Nat → Option (List Char × Nat × Cursor)
  | 0 => none
  | fuel + 1 =>
    let spaces := (c.rest.takeWhile (· == ' ')).length
    let c :=
      match indent with
      | none => c.skip spaces
      | some n => c.skip (min spaces (n - c.column))
    let widest := max widest c.column
    let within :=
      match indent with
      | none => true
      | some n => c.column < n
    match c.peek 0 with
    | none => some (breaks, widest, c)
    | some d =>
      if d == '\t' && within then none
      else if isBreak d then readEmptyLines indent widest (breaks ++ [breakChar d]) c.nextLine fuel
      else some (breaks, widest, c)

/-- Reads the lines of a block scalar.  `before` is the line break before this line, `empty` the
empty lines after that, and `blank` tells whether the line before started with a blank. -/
def blockLines (literal : Bool) (indent : Nat) (before empty : List Char) (blank : Bool)
    (c : Cursor) : Nat → Option (List Char × List Char × List Char × Cursor)
  | 0 => none
  | fuel + 1 =>
    if c.column = indent ∧ !c.atEnd then do
      let startsBlank := (c.peek 0).any isBlank
      let folds := !literal && before.head? == some '\n' && !blank && !startsBlank
      let joint := if folds then (if empty.isEmpty then [' '] else []) else before
      let line := c.rest.takeWhile (!isBreak ·)
      let after := c.skip line.length
      let next :=
        match after.peek 0 with
        | some d => ([breakChar d], after.nextLine)
        | none => ([], after)
      let (nextEmpty, _, start) ←
        readEmptyLines (some indent) 0 [] next.2 (next.2.rest.length + 1)
      let (more, last, final) ← blockLines literal indent next.1 nextEmpty startsBlank start fuel
      pure (joint ++ empty ++ line ++ more, last, final)
    else some ([], before, empty, c)

/-- Reads a block scalar from its indicator on, inside of a block indented by `parent` columns. -/
def readBlockScalar (literal : Bool) (parent : Int) (c : Cursor) :
    Option (List Char × Cursor) := do
  let (header, c) ← readIndicators c.next
  let c ← endOfLine c
  let known := header.increment.map fun n => if 0 ≤ parent then parent.toNat + n else n
  let (empty, widest, c) ← readEmptyLines known 0 [] c (c.rest.length + 1)
  let indent := known.getD (max (max widest (parent + 1).toNat) 1)
  let (text, last, trailing, c) ←
    blockLines literal indent [] empty false c (c.rest.length + 1)
  let ending :=
    match header.chomping with
    | .strip => []
    | .clip => last
    | .keep => last ++ trailing
  pure (text ++ ending, c)

end StyleObjects.Yaml
