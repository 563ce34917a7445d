import StyleObjects.Yaml.Token

/-!
# Nodes of YAML

The tokens of a document are read into a tree of nodes.  A node may carry a tag and an anchor; an
alias stands for the node with an anchor seen before.  Anchors are numbered by how many names were
known when they were met, so a name that is used again can share its number with a later one.
-/

namespace StyleObjects.Yaml

/-- The properties of a node. -/
structure Properties where
  anchor : Option Nat
  tag : Option String
deriving DecidableEq

/-- A node of a document. -/
inductive Node where
  | aliasOf (target : Nat)
  | scalar (properties : Properties) (plain : Bool) (text : String)
  | sequence (properties : Properties) (items : List Node)
  | mapping (properties : Properties) (entries : List (Node × Node))

/-- The state of reading: the tokens left, the anchors seen, and the handles of tags. -/
structure Reading where
  tokens : List Token
  anchors : List (String × Nat)
  handles : List (List Char × List Char)

/-- Reading fails at a token that does not fit, and at the end of the tokens. -/
abbrev Reader := StateT Reading Option

namespace Reader

/-- The next token, which must exist. -/
def peek : Reader Token := do
  match (← get).tokens with
  | token :: _ => pure token
  | [] => failure

/-- Passes over the next token. -/
def advance : Reader Unit :=
  modify fun r => { r with tokens := r.tokens.tail }

/-- Registers an anchor and gives its number. -/
def register (name : String) : Reader Nat :=
  modifyGet fun r =>
    let number := r.anchors.length
    let others := r.anchors.filter (·.1 != name)
    (number, { r with anchors := (name, number) :: others })

/-- The node of an alias. -/
def resolveAlias (name : String) : Reader Node := do
  match (← get).anchors.lookup name with
  | some number => pure (.aliasOf number)
  | none => failure

/-- The full form of a tag. -/
def resolveTag (t : Tag) : Reader String := do
  if t.handle.isEmpty then pure (String.ofList t.suffix)
  else
    match (← get).handles.lookup t.handle with
    | some start => pure (String.ofList (start ++ t.suffix))
    | none => failure

/-! ## Properties -/

/-- Reads an anchor, if there is one. -/
def anchor? : Reader (Option String) := do
  match ← peek with
  | .anchor name => advance; pure (some name)
  | _ => pure none

/-- Reads a tag, if there is one. -/
def tag? : Reader (Option Tag) := do
  match ← peek with
  | .tag t => advance; pure (some t)
  | _ => pure none

/-- Reads an anchor and a tag, in either order. -/
def properties : Reader (Option String × Option String) := do
  let first ← anchor?
  let tag ← tag?
  let anchor ←
    match first, tag with
    | none, some _ => anchor?
    | _, _ => pure first
  let tag ← tag.mapM resolveTag
  pure (anchor, tag.filter (· ≠ ""))

/-! ## Nodes -/

/-- A node that is left out. -/
def emptyNode : Node :=
  .scalar ⟨none, none⟩ true ""

/-- Whether a token ends an entry of a block mapping. -/
def endsBlockEntry : Token → Bool
  | .key | .value | .blockEnd => true
  | _ => false

/-- Reads a node unless a token that ends it comes first. -/
def nodeUnless (ends : Token → Bool) (node : Reader Node) : Reader Node := do
  if ends (← peek) then pure emptyNode else node

/-- Reads a value after its colon; without a colon the value is left out. -/
def valueNode (ends : Token → Bool) (node : Reader Node) : Reader Node := do
  if (← peek) = .value then
    advance
    nodeUnless ends node
  else pure emptyNode

/-- Passes over the comma before an entry inside of brackets; the first entry has none. -/
def comma (first : Bool) : Reader Unit := do
  if !first then
    if (← peek) = .flowEntry then advance else failure

/-- Reads the pair of a sequence in brackets, after its key indicator.  A token that ends an empty
key is passed over as well. -/
def singlePair (node : Reader Node) : Reader Node := do
  let endsKey (t : Token) : Bool := t = .value || t = .flowEntry || t = .flowSequenceEnd
  let key ←
    if endsKey (← peek) then
      advance
      pure emptyNode
    else node
  let value ← valueNode (fun t => t = .flowEntry || t = .flowSequenceEnd) node
  pure (.mapping ⟨none, none⟩ [(key, value)])

mutual

/-- Reads a node.  Blocks are allowed unless the node stands inside of brackets, and the value of a
block mapping may be a sequence that is not indented. -/
def node (block unindented : Bool) : Nat → Reader Node
  | 0 => failure
  | fuel + 1 => do
    if let .aliasOf name ← peek then
      advance
      return ← resolveAlias name
    let (anchor, tag) ← properties
    let properties : Option String → Reader Properties := fun tag => do
      pure ⟨← anchor.mapM register, tag⟩
    match ← peek with
    | .scalar plain text =>
      advance
      pure (.scalar (← properties (tag.filter (· ≠ "!"))) plain text)
    | .flowSequenceStart =>
      advance
      let properties ← properties tag
      pure (.sequence properties (← flowSequence true fuel))
    | .flowMappingStart =>
      advance
      let properties ← properties tag
      pure (.mapping properties (← flowMapping true fuel))
    | token =>
      if unindented && token = .blockEntry then
        let properties ← properties tag
        pure (.sequence properties (← unindentedSequence fuel))
      else if block && token = .blockSequenceStart then
        advance
        let properties ← properties tag
        pure (.sequence properties (← blockSequence fuel))
      else if block && token = .blockMappingStart then
        advance
        let properties ← properties tag
        pure (.mapping properties (← blockMapping fuel))
      else if anchor.isSome || tag.isSome then
        pure (.scalar (← properties tag) true "")
      else failure

/-- Reads the items of a block sequence. -/
def blockSequence : Nat → Reader (List Node)
  | 0 => failure
  | fuel + 1 => do
    match ← peek with
    | .blockEntry =>
      advance
      let item ← nodeUnless (fun t => t = .blockEntry || t = .blockEnd) (node true false fuel)
      pure (item :: (← blockSequence fuel))
    | .blockEnd => advance; pure []
    | _ => failure

/-- Reads the items of a sequence that is not indented. -/
def unindentedSequence : Nat → Reader (List Node)
  | 0 => failure
  | fuel + 1 => do
    match ← peek with
    | .blockEntry =>
      advance
      let item ← nodeUnless (fun t => t = .blockEntry || endsBlockEntry t) (node true false fuel)
      pure (item :: (← unindentedSequence fuel))
    | _ => pure []

/-- Reads the entries of a block mapping. -/
def blockMapping : Nat → Reader (List (Node × Node))
  | 0 => failure
  | fuel + 1 => do
    match ← peek with
    | .key =>
      advance
      let key ← nodeUnless endsBlockEntry (node true true fuel)
      let value ← valueNode endsBlockEntry (node true true fuel)
      pure ((key, value) :: (← blockMapping fuel))
    | .blockEnd => advance; pure []
    | _ => failure

/-- Reads the items of a sequence in brackets. -/
def flowSequence (first : Bool) : Nat → Reader (List Node)
  | 0 => failure
  | fuel + 1 => do
    if (← peek) = .flowSequenceEnd then
      advance
      return []
    comma first
    match ← peek with
    | .flowSequenceEnd => advance; pure []
    | .key =>
      advance
      let item ← singlePair (node false false fuel)
      pure (item :: (← flowSequence false fuel))
    | _ =>
      let item ← node false false fuel
      pure (item :: (← flowSequence false fuel))

/-- Reads the entries of a mapping in braces.  An entry without key indicator has no value. -/
def flowMapping (first : Bool) : Nat → Reader (List (Node × Node))
  | 0 => failure
  | fuel + 1 => do
    if (← peek) = .flowMappingEnd then
      advance
      return []
    comma first
    let endsValue (t : Token) : Bool := t = .flowEntry || t = .flowMappingEnd
    match ← peek with
    | .flowMappingEnd => advance; pure []
    | .key =>
      advance
      let key ← nodeUnless (fun t => t = .value || endsValue t) (node false false fuel)
      let value ← valueNode endsValue (node false false fuel)
      pure ((key, value) :: (← flowMapping false fuel))
    | _ =>
      let key ← node false false fuel
      pure ((key, emptyNode) :: (← flowMapping false fuel))

end

/-! ## Documents -/

/-- The handles that need no directive. -/
def defaultHandles : List (List Char × List Char) :=
  [(['!'], ['!']), (['!', '!'], "tag:yaml.org,2002:".toList)]

/-- Reads the directives before a document.  There may be one version, which must be 1.1 or 1.2,
and one directive for every handle. -/
def directives (versionSeen : Bool) : Nat → Reader Unit
  | 0 => failure
  | fuel + 1 => do
    match ← peek with
    | .directive (.version major minor) =>
      if versionSeen || major ≠ 1 || (minor ≠ 1 && minor ≠ 2) then failure
      advance
      directives true fuel
    | .directive (.tag handle start) =>
      if ((← get).handles.lookup handle).isSome then failure
      modify fun r => { r with handles := r.handles ++ [(handle, start)] }
      advance
      directives versionSeen fuel
    | _ => modify fun r => { r with handles := r.handles ++ defaultHandles }

/-- Whether a token is a directive. -/
def isDirective : Token → Bool
  | .directive _ => true
  | _ => false

/-- Whether a token stands between documents. -/
def isBetween : Token → Bool
  | .directive _ | .documentStart | .documentEnd | .streamEnd => true
  | _ => false

/-- Reads the first document, or nothing if the text has none.  What follows the document must be
a token. -/
def document (fuel : Nat) : Reader (Option Node) := do
  let first ← peek
  directives false fuel
  if first = .streamEnd then return none
  let root ←
    if (← peek) = .documentStart then
      advance
      nodeUnless isBetween (node true false fuel)
    else if isDirective first then failure
    else node true false fuel
  let _ ← peek
  pure (some root)

end Reader

/-- The first document of a text, if it can be read, and whether the text ends there. -/
def readDocument? (text : String) : Option (Option Node × Bool) := do
  let ts := tokens text.toList
  let (root, after) ←
    (Reader.document (3 * ts.length + 3)).run ⟨ts, [], []⟩
  pure (root, after.tokens.dropWhile (· = .documentEnd) = [.streamEnd])

end StyleObjects.Yaml
