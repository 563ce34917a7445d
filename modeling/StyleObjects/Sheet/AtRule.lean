import StyleObjects.Sheet.Rule

/-!
# Media queries and keyframes

At-rules may stand at any depth of a declaration.  Media queries keep their own nesting, and those
inside of other rules are lifted to the closest media query around them, or to the top.  Keyframes
always become blocks of their own.

Main results:

- `Keyframes.layout_eq_nil_iff`: a keyframes block is left out exactly if all its rules are empty.
-/

namespace StyleObjects

/-! ## Media queries -/

/-- A media query with its body and the media queries inside of it. -/
inductive MediaQuery where
  | mk (query : String) (body : Declaration) (nested : List MediaQuery)

/-- The selectors and the label that hold for all rules of one object. -/
structure Scope where
  selector : String
  combinator : Option String
  label : Option String
deriving DecidableEq, Repr

namespace Declaration

/-- The media queries of a declaration, in the order of the keys. -/
def mediaQueries : Declaration → List MediaQuery
  | nil => []
  | cons key value rest =>
    (match value with
      | .block body =>
        match RuleKind.classify key (.block body) with
        | .mediaQuery => [.mk key body body.mediaQueries]
        | .reserved => []
        | _ => body.mediaQueries
      | _ => []) ++ rest.mediaQueries

end Declaration

mutual

/-- The lines of a media query at a depth: its rules, then the media queries inside of it.  A media
query without any rule to write has no lines. -/
def MediaQuery.layout (scope : Scope) (depth : Nat) : MediaQuery → List String
  | .mk query body nested =>
    let rules := (body.rules scope.selector scope.combinator).map (·.layout (depth + 1) scope.label)
    let content := separated rules ++ separated (layoutAll scope (depth + 1) nested)
    if content.isEmpty then []
    else [indent depth ++ query ++ " \x7b"] ++ content ++ [indent depth ++ "\x7d"]

/-- The lines of each of several media queries. -/
def MediaQuery.layoutAll (scope : Scope) (depth : Nat) : List MediaQuery → List (List String)
  | [] => []
  | media :: rest => media.layout scope depth :: layoutAll scope depth rest

end

/-! ## Keyframes -/

/-- A keyframes block with its offsets. -/
structure Keyframes where
  name : String
  frames : Declaration
deriving DecidableEq, Repr

namespace Declaration

/-- The keyframes blocks of a declaration, in the order of the keys. -/
def keyframes : Declaration → List Keyframes
  | nil => []
  | cons key value rest =>
    (match value with
      | .block body =>
        match RuleKind.classify key (.block body) with
        | .keyframes => [⟨key, body⟩]
        | .reserved => []
        | _ => body.keyframes
      | _ => []) ++ rest.keyframes

end Declaration

/-- The rules of the offsets of a keyframes block. -/
def Keyframes.rules (k : Keyframes) : List Rule :=
  k.frames.entries.flatMap fun e =>
    match e.2 with
    | .block body => body.rules e.1 none
    | _ => []

/-- The lines of a keyframes block, its rules directly below each other. -/
def Keyframes.layout (k : Keyframes) : List String :=
  let frames := k.rules.flatMap (·.layout 1 none)
  if frames.isEmpty then [] else [k.name ++ " \x7b"] ++ frames ++ ["\x7d"]

/-- A keyframes block is left out exactly if all its rules are empty. -/
theorem Keyframes.layout_eq_nil_iff {k : Keyframes} :
    k.layout = [] ↔ ∀ rule ∈ k.rules, rule.declarations = [] := by
  simp only [Keyframes.layout]
  split
  · rename_i h
    simpa [Rule.layout_eq_nil_iff] using h
  · rename_i h
    simp only [List.append_eq_nil_iff, List.cons_ne_nil, false_and, false_iff]
    intro all
    exact h (by simpa [Rule.layout_eq_nil_iff] using all)

end StyleObjects
