import StyleObjects.Style.Property
import StyleObjects.Text.Blank

/-!
# Rules

A declaration is flattened into rules: its own level first, then every nested rule in the order of
the keys.  A nested key composes its selector with the one around it; at-rules and labels are left
out here.  A rule without declarations is never written.

Main results:

- `Rule.layout_eq_nil_iff`: exactly the rules without declarations have no lines.
-/

namespace StyleObjects

/-- One selector with its declaration lines. -/
structure Rule where
  selector : String
  declarations : List String
deriving DecidableEq, Repr

namespace Rule

/-- A selector as it is written, without blanks at its ends. -/
def trimmed (selector : String) : String :=
  String.ofList (Text.trim selector.toList)

/-- The rule of one level of a declaration. -/
def ofLevel (selector : String) (d : Declaration) : Rule :=
  ⟨trimmed selector, d.lines⟩

end Rule

/-! ## Flattening -/

/-- The selector of a nested key, or nothing if the entry is no nested rule.  The `combinator` is
what `&` stands for; without one, `&` stands for the parent. -/
def nestedSelector? (parent : String) (combinator : Option String) (key : String)
    (value : StyleValue) : Option String :=
  match RuleKind.classify key value with
  | .pseudo => some (parent ++ key)
  | .combinator =>
    some (String.ofList (Text.replaceChar '&' (combinator.getD parent).toList key.toList))
  | .attribute => some (parent ++ " " ++ key)
  | .descendant => some (parent ++ " " ++ key)
  | .mediaQuery => none
  | .keyframes => none
  | .reserved => none
  | .property => none

namespace Declaration

/-- The rules of the nested blocks of a declaration.  The combinator holds at this level only. -/
def nestedRules (parent : String) (combinator : Option String) : Declaration → List Rule
  | nil => []
  | cons key value rest =>
    (match value with
      | .block body =>
        match nestedSelector? parent combinator key (.block body) with
        | some selector => Rule.ofLevel selector body :: body.nestedRules selector none
        | none => []
      | _ => []) ++ rest.nestedRules parent combinator

/-- All rules of a declaration under a selector, empty ones included. -/
def rules (d : Declaration) (selector : String) (combinator : Option String) : List Rule :=
  Rule.ofLevel selector d :: d.nestedRules selector combinator

end Declaration

/-! ## Layout -/

/-- One step of indentation. -/
def indentStep : String := "  "

/-- The indentation at a depth. -/
def indent : Nat → String
  | 0 => ""
  | depth + 1 => indentStep ++ indent depth

/-- The line that labels a rule with the name of its object. -/
def labelLine (depth : Nat) (label : String) : String :=
  indent depth ++ "/* " ++ label ++ " */"

/-- The lines of a rule at a depth, with its label if there is one. -/
def Rule.layout (depth : Nat) (label : Option String) (rule : Rule) : List String :=
  if rule.declarations.isEmpty then []
  else
    (label.map (labelLine depth)).toList ++ [indent depth ++ rule.selector ++ " \x7b"] ++
      rule.declarations.map (fun line => indent (depth + 1) ++ line ++ ";") ++
      [indent depth ++ "\x7d"]

/-- Exactly the rules without declarations have no lines. -/
theorem Rule.layout_eq_nil_iff {depth : Nat} {label : Option String} {rule : Rule} :
    rule.layout depth label = [] ↔ rule.declarations = [] := by
  unfold layout
  split <;> simp_all

/-- Puts blocks below each other with an empty line in between; blocks without lines are left
out. -/
def separated (blocks : List (List String)) : List String :=
  [""].intercalate (blocks.filter fun block => !block.isEmpty)

end StyleObjects
