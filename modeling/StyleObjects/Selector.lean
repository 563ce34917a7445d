import StyleObjects.Kebab
import StyleObjects.Record
import StyleObjects.Text.Search

/-!
# Selectors of style objects

Every object has a target, which its rules attach to, a replacement for `&` at its top level, and a
reported selector, which the lookup maps list.
-/

namespace StyleObjects

/-- The prefix of derived selectors without prepend and version. -/
def barePrefix : String := "."

/-- The prefix that all derived selectors of a record share.  The dots of a version become
dashes. -/
def basePrefix (prepend version : Option String) : String :=
  let tag := version.map fun v => String.ofList (Text.replaceChar '.' ['-'] v.toList)
  match prepend, tag with
  | some p, some v => p ++ "-v" ++ v
  | some p, none => p
  | none, some v => ".v" ++ v
  | none, none => barePrefix

/-- The base prefix of a record. -/
def Record.base (r : Record) : String :=
  basePrefix r.effectivePrepend r.effectiveVersion

/-- The selectors of one object. -/
structure ResolvedSelector where
  /-- The selector that the rules of the object attach to. -/
  target : String
  /-- What `&` stands for in the top-level keys of the object. -/
  combinator : Option String
  /-- The selector that the lookup maps list. -/
  reported : String
deriving DecidableEq, Repr

/-- The target derived from the name of an object.  A prefix that ends with the name already is the
target itself. -/
def derivedTarget (base object : String) : String :=
  let name := kebabCase object
  if name.toList.isSuffixOf base.toList then base
  else if base = barePrefix then base ++ name
  else base ++ "-" ++ name

/-- The selectors of an object of a record under a base prefix. -/
def Record.resolve (r : Record) (object base : String) : ResolvedSelector :=
  let explicit := r.combinatorFor object
  match r.overrideFor object with
  | some selector =>
    { target := selector
      combinator := some (explicit.getD base)
      reported := explicit.getD selector }
  | none =>
    let target := derivedTarget base object
    { target
      combinator := explicit.or (if base = barePrefix then none else some base)
      reported := explicit.getD target }

end StyleObjects
