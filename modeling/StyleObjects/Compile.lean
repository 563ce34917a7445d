import StyleObjects.Selector
import StyleObjects.Sheet.AtRule
import StyleObjects.Sheet.Lookup

/-!
# Compiling records

The objects of a record are compiled by ascending name.  Each gives its rules, then its media
queries, then its keyframes blocks; blocks are separated by one empty line.  Every compiled object
is recorded in the lookup maps, whether or not it has a rule to write.
-/

namespace StyleObjects

/-- A compiled stylesheet. -/
structure Sheet where
  name : Option String
  css : String
  /-- Selectors by object, in the order of the objects. -/
  selectors : List (String × String)
  /-- Objects by selector, in the order of the objects that keep them. -/
  objects : List (String × String)
deriving DecidableEq, Inhabited

namespace Sheet

/-- The selector of an object. -/
def selectorFor (s : Sheet) (object : String) : Option String :=
  s.selectors.lookup object

/-- The object behind a selector. -/
def objectFor (s : Sheet) (selector : String) : Option String :=
  s.objects.lookup selector

end Sheet

/-- The blocks of a declaration within a scope: rules, media queries and keyframes. -/
def Declaration.blocks (d : Declaration) (scope : Scope) : List (List String) :=
  (d.rules scope.selector scope.combinator).map (·.layout 0 scope.label) ++
    MediaQuery.layoutAll scope 0 d.mediaQueries ++ d.keyframes.map Keyframes.layout

namespace Record

/-- The scope of an object of a record. -/
def scope (r : Record) (object : String) : Scope :=
  let resolved := r.resolve object r.base
  { selector := resolved.target
    combinator := resolved.combinator
    label := if r.map then some object else none }

/-- The blocks of all compiled objects. -/
def blocks (r : Record) : List (List String) :=
  r.compiled.flatMap fun e => e.2.blocks (r.scope e.1)

/-- The lookup maps of a record. -/
def lookup (r : Record) : Lookup :=
  .ofList (r.compiled.map fun e => (e.1, (r.resolve e.1 r.base).reported))

/-- The text of a stylesheet, without blanks at its ends. -/
def css (r : Record) : String :=
  String.ofList (Text.trim ("\n".intercalate (separated r.blocks)).toList)

/-- Compiles a record. -/
def compile (r : Record) : Sheet where
  name := r.name
  css := r.css
  selectors := r.lookup.selectors
  objects := r.lookup.objects

/-- What compiling a record warns about: dangling names, then collisions. -/
def warnings (r : Record) : List String :=
  r.dangling.map DanglingName.message ++ r.lookup.collisions.map Collision.message

end Record

/-- One sheet or a sequence of sheets. -/
inductive SheetSet where
  | one (sheet : Sheet)
  | many (sheets : List Sheet)
deriving DecidableEq, Inhabited

namespace SheetSet

/-- The sheets in order. -/
def toList : SheetSet → List Sheet
  | one sheet => [sheet]
  | many sheets => sheets

/-- The number of sheets. -/
def size (s : SheetSet) : Nat :=
  s.toList.length

/-- Whether there are no sheets. -/
def isEmpty (s : SheetSet) : Bool :=
  s.toList.isEmpty

end SheetSet

namespace RecordSet

/-- Compiles every record of a set and keeps the shape of the set. -/
def compile : RecordSet → SheetSet
  | one record => .one record.compile
  | many records => .many (records.map Record.compile)

/-- What compiling the records of a set warns about. -/
def warnings (s : RecordSet) : List String :=
  s.toList.flatMap Record.warnings

end RecordSet

end StyleObjects
