import StyleObjects.Yaml.Node
import StyleObjects.Yaml.Schema

/-!
# Loading YAML

A document becomes plain data: aliases are replaced by copies of the nodes they stand for, scalars
are read by the core schema, and a key may occur only once in a mapping.  Nesting is limited to 128
levels, and the number of aliases that are followed to a hundred for each node.
-/

namespace StyleObjects.Yaml

/-- Why a text cannot be loaded. -/
inductive LoadError where
  /-- The text is not a valid document. -/
  | syntaxError
  /-- Too many aliases are followed. -/
  | repetition
  /-- Another document follows the first. -/
  | severalDocuments
deriving DecidableEq, Repr

namespace Node

/-! ## Measures -/

mutual

/-- The number of marks that a node makes in a document: one, or two for a collection. -/
def size : Node → Nat
  | aliasOf _ => 1
  | scalar _ _ _ => 1
  | sequence _ items => sizeAll items + 2
  | mapping _ entries => sizeEntries entries + 2

/-- The size of several nodes. -/
def sizeAll : List Node → Nat
  | [] => 0
  | item :: rest => item.size + sizeAll rest

/-- The size of the keys and values of a mapping. -/
def sizeEntries : List (Node × Node) → Nat
  | [] => 0
  | (key, value) :: rest => key.size + value.size + sizeEntries rest

end

/-- The properties of a node. -/
def properties? : Node → Option Properties
  | aliasOf _ => none
  | scalar p _ _ => some p
  | sequence p _ => some p
  | mapping p _ => some p

/-- The anchor of a node together with the node. -/
def ownAnchor (n : Node) : List (Nat × Node) :=
  ((n.properties?.bind (·.anchor)).map fun a => (a, n)).toList

mutual

/-- The anchored nodes of a tree in the order of the document. -/
def anchored : Node → List (Nat × Node)
  | aliasOf _ => []
  | scalar p plain text => ownAnchor (scalar p plain text)
  | sequence p items => ownAnchor (sequence p items) ++ anchoredAll items
  | mapping p entries => ownAnchor (mapping p entries) ++ anchoredEntries entries

/-- The anchored nodes of several trees. -/
def anchoredAll : List Node → List (Nat × Node)
  | [] => []
  | item :: rest => item.anchored ++ anchoredAll rest

/-- The anchored nodes of the keys and values of a mapping. -/
def anchoredEntries : List (Node × Node) → List (Nat × Node)
  | [] => []
  | (key, value) :: rest => key.anchored ++ value.anchored ++ anchoredEntries rest

end

end Node

/-! ## Following aliases -/

/-- What following aliases needs to know of a document. -/
structure Anchors where
  /-- The anchored nodes; of nodes with one number, the last counts. -/
  nodes : List (Nat × Node)
  /-- The number of aliases that may be followed. -/
  limit : Nat

/-- The anchors of a document. -/
def Anchors.ofRoot (root : Node) : Anchors :=
  ⟨root.anchored.reverse, root.size * 100⟩

/-- Loading counts the aliases followed so far. -/
abbrev Loader := StateT Nat (Except LoadError)

/-- The node itself, or the node that an alias stands for. -/
def follow (anchors : Anchors) (n : Node) : Loader Node := do
  match n with
  | .aliasOf target =>
    modify (· + 1)
    if anchors.limit < (← get) then throw .repetition
    match anchors.nodes.lookup target with
    | some found => pure found
    | none => throw .syntaxError
  | n => pure n

/-- Marks a collection with its tag, if the tag is local to the document. -/
def markLocal (p : Properties) (d : Data) : Data :=
  match p.tag.bind localTag? with
  | some name => .tagged name d
  | none => d

/-- The data of a scalar. -/
def loadScalar (p : Properties) (plain : Bool) (text : String) : Loader Data :=
  match scalarData? p.tag plain text with
  | some d => pure d
  | none => throw .syntaxError

/-- The data of a mapping entry after earlier ones. -/
def loadEntry (unique : Bool) (inner : Node → Loader Data) (done : List (Data × Data))
    (entry : Node × Node) : Loader (List (Data × Data)) := do
  let key ← inner entry.1
  if unique && done.any (·.1 == key) then throw .syntaxError
  let value ← inner entry.2
  pure (done ++ [(key, value)])

/-- The data of a node, where `inner` loads the nodes inside of it; without it the nesting is too
deep for a collection. -/
def loadNode (unique : Bool) (anchors : Anchors) (inner : Option (Node → Loader Data))
    (n : Node) : Loader Data := do
  match ← follow anchors n with
  | .aliasOf _ => throw .syntaxError
  | .scalar p plain text => loadScalar p plain text
  | .sequence p items =>
    match inner with
    | none => throw .syntaxError
    | some inner => markLocal p <$> .sequence <$> items.mapM inner
  | .mapping p entries =>
    match inner with
    | none => throw .syntaxError
    | some inner => markLocal p <$> .mapping <$> entries.foldlM (loadEntry unique inner) []

/-- The data of a node that nests at most `depth` levels.  With `unique`, a key that occurs twice
is refused. -/
def load (unique : Bool) (anchors : Anchors) : Nat → Node → Loader Data
  | 0 => loadNode unique anchors none
  | depth + 1 => loadNode unique anchors (some (load unique anchors depth))

/-- The number of levels that a document may nest. -/
def maxDepth : Nat := 128

/-- Reads the only document of a text with a reader of its root; a text without document has no
root. -/
def withDocument {α : Type} (text : String) (missing : α)
    (read : Anchors → Node → Loader α) : Except LoadError α := do
  match readDocument? text with
  | none => throw .syntaxError
  | some (root, alone) =>
    let value ←
      match root with
      | none => pure missing
      | some root => (read (.ofRoot root) root).run' 0
    if alone then pure value else throw .severalDocuments

/-- The data of a text with one document.  A text without document is a null. -/
def parse (text : String) : Except LoadError Data :=
  withDocument text .null fun anchors root => load true anchors maxDepth root

end StyleObjects.Yaml
