/-
RouterConfig.Definition.Report — definitions as JSON and as an indented
outline.
-/
import RouterConfig.Definition.Tree
import RouterConfig.Json.Printer

namespace RouterConfig

/-! ## 1. JSON -/

/-- A value as JSON: one text, or an array of them. -/
def Value.toJson : Value → Json
  | .empty => .null
  | .single s => .string s
  | .multi texts => .strings texts

namespace Definition

mutual

/-- A definition as JSON, with everything below it. Its path is that of the element above, and what
is missing is left out. -/
def toJson : Definition → Json
  | ⟨segment, parent, _, _, comment, value, children⟩ =>
    .object (
      [("name", .string segment.literal), ("path", .string parent.key)] ++
      Json.fieldIfSome "comment" .string comment ++
      (if value.isEmpty then [] else [("value", value.toJson)]) ++
      (if children.isEmpty then [] else [("children", .array (toJsons children))]))

/-- Definitions as JSON, in order. -/
def toJsons : List Definition → List Json
  | [] => []
  | d :: rest => d.toJson :: toJsons rest

end

/-! ## 2. Outline -/

/-- The lines of a definition itself: its name with its value, and its comment. -/
def ownLines (depth : Nat) (d : Definition) : String :=
  let indent := Text.times depth "  "
  indent ++ d.name ++ (if d.isLeaf then " " ++ d.value.render else "") ++ "\n" ++
    (match d.comment with
      | some comment => indent ++ "  # " ++ comment ++ "\n"
      | none => "")

mutual

/-- The outline of a definition and all below it, at a depth. -/
def outlineAt (depth : Nat) : Definition → String
  | d@⟨_, _, _, _, _, _, children⟩ => d.ownLines depth ++ outlineAll (depth + 1) children

/-- The outlines of several definitions, one after another. -/
def outlineAll (depth : Nat) : List Definition → String
  | [] => ""
  | d :: rest => d.outlineAt depth ++ outlineAll depth rest

end

end Definition

namespace Definitions

/-- The tree as JSON: an array of its roots. -/
def toJson (t : Definitions) : Json := .array (Definition.toJsons t.roots)

/-- The outline of the tree. -/
def outline (t : Definitions) : String := Definition.outlineAll 0 t.roots

end Definitions

end RouterConfig
