/-
RouterConfig.Schema.Grammar — the attributes that a grammar text gives to a
node.

A grammar text is a list of scopes. A line that begins without a blank and
holds a colon opens a scope, named by what stands before the colon. Other
lines continue the open scope, and a blank line closes it. A line with no
scope to continue is passed over.
-/
import RouterConfig.Schema.Expression
import RouterConfig.Schema.Node

namespace RouterConfig.Schema

/-! ## 1. Scopes -/

/-- A scope: its name, and its text from the colon on. -/
structure Scope where
  name : String
  text : String
  deriving DecidableEq, Inhabited, Repr

namespace Scope

/-- Whether a line holds nothing but blanks. -/
def isBlankLine (line : List Char) : Bool := line.all Text.isBlank

/-- Whether a line begins with a blank. -/
def isIndented : List Char → Bool
  | [] => false
  | c :: _ => Text.isBlank c

/-- The scope that a line opens. -/
def opened? (line : List Char) : Option Scope :=
  if isIndented line then none
  else (Text.cut ':' line).map fun (name, text) =>
    ⟨String.ofList (Text.trimChars name), String.ofList text⟩

/-- The scope with one more line. -/
def continued (scope : Scope) (line : List Char) : Scope :=
  { scope with text := scope.text ++ "\n" ++ String.ofList line }

/-- The scopes of lines, given the scope that is open before them. -/
def ofLines : Option Scope → List (List Char) → List Scope
  | current, [] => current.toList
  | current, line :: rest =>
    if isBlankLine line then current.toList ++ ofLines none rest
    else
      match opened? line with
      | some scope => current.toList ++ ofLines (some scope) rest
      | none => ofLines (current.map (·.continued line)) rest

/-- The scopes of a text. -/
def ofText (text : String) : List Scope := ofLines none (Text.lines text.toList)

end Scope

/-! ## 2. Attributes -/

/-- The text before the first semicolon, without blanks around it. -/
def firstPart (text : List Char) : String :=
  String.ofList (Text.trimChars (((Text.cut ';' text).map (·.1)).getD text))

/-- The node with what one scope says; `none` when the scope says nothing about a node. A type that
is not known leaves the type as it was. -/
def applyScope? (node : SchemaNode) (scope : Scope) : Option SchemaNode :=
  let cs := scope.text.toList
  let trimmed := String.ofList (Text.trimChars cs)
  match scope.name with
  | "tag" => some { node with isTag := true }
  | "multi" => some { node with multi := true }
  | "type" => some { node with type := (ValueType.ofDeclaration? trimmed).getD node.type }
  | "help" => some { node with help := some trimmed }
  | "val_help" | "value-help" =>
    some { node with valueHelp := node.valueHelp ++ [firstPart cs] }
  | "allowed" =>
    some { node with
      constraints := node.constraints ++ [.ofAllowed trimmed]
      allowed := some trimmed }
  | "syntax" =>
    (Text.dropStart? "expression:".toList (Text.trimStart cs)).map fun rest =>
      let expression := String.ofList (Text.trimChars rest)
      { node with
        constraints := node.constraints ++ [.ofExpression expression]
        expressions := node.expressions ++ [expression] }
  | _ => none

/-- The node with what all scopes say, and how many of them say something. -/
def applyScopes (node : SchemaNode) : List Scope → SchemaNode × Nat
  | [] => (node, 0)
  | scope :: rest =>
    match applyScope? node scope with
    | none => applyScopes node rest
    | some node =>
      let (node, count) := applyScopes node rest
      (node, count + 1)

/-- The node with what a grammar text says, and how many scopes of the text say something. -/
def applyText (node : SchemaNode) (text : String) : SchemaNode × Nat :=
  applyScopes node (Scope.ofText text)

end RouterConfig.Schema
