/-
RouterConfig.Schema.Report — grammars as JSON and as an indented outline.
-/
import RouterConfig.Json.Printer
import RouterConfig.Schema.Node

namespace RouterConfig

/-! ## 1. JSON -/

namespace Constraint

/-- A bound as JSON. -/
def boundJson (bound : Option Int64) : Json := Json.optional (fun n => .integer n.toInt) bound

/-- A constraint as JSON: its kind, then its parts. -/
def toJson (constraint : Constraint) : Json :=
  let kind (name : String) (fields : List (String × Json)) : Json :=
    .object (("kind", .string name) :: fields)
  let reason := [("reason", Json.optional .string constraint.reason)]
  match constraint with
  | .allowedValues values _ => kind "allowed_values" (("values", .strings values) :: reason)
  | .disallowedValues values _ => kind "disallowed_values" (("values", .strings values) :: reason)
  | .allowedCommand command => kind "allowed_command" [("command", .string command)]
  | .validateCommand command _ => kind "validate_command" (("command", .string command) :: reason)
  | .pattern p _ => kind "pattern" (("pattern", .string p) :: reason)
  | .negatedPattern p _ => kind "negated_pattern" (("pattern", .string p) :: reason)
  | .range min max _ => kind "range" (("min", boundJson min) :: ("max", boundJson max) :: reason)
  | .unrecognized expression _ =>
    kind "unrecognized" (("expression", .string expression) :: reason)

end Constraint

namespace SchemaNode

mutual

/-- A node as JSON, with everything below it. Attributes that are missing are left out. -/
def toJson : SchemaNode → Json
  | ⟨name, type, help, valueHelp, isTag, multi, path, allowed, expressions, constraints, children⟩ =>
    .object (
      [("name", .string name), ("type", .string type.token)] ++
      Json.fieldIfSome "help" .string help ++
      Json.fieldIfAny "value_help" .string valueHelp ++
      [("is_tag", .bool isTag), ("multi", .bool multi), ("path", .string path)] ++
      Json.fieldIfSome "allowed" .string allowed ++
      Json.fieldIfAny "expressions" .string expressions ++
      Json.fieldIfAny "constraints" Constraint.toJson constraints ++
      [("children", .object (childFields children))])

/-- Nodes as JSON fields, each under its name. -/
def childFields : List SchemaNode → List (String × Json)
  | [] => []
  | node :: rest => (node.name, node.toJson) :: childFields rest

end

/-! ## 2. Outline -/

/-- The lines of a node itself at a depth: its headline, and its constraints when they
are wanted. -/
def ownLines (constraints : Bool) (depth : Nat) (node : SchemaNode) : String :=
  let indent := Text.times depth "  "
  indent ++ node.headline ++ "\n" ++
    (if constraints then
      String.join (node.constraints.map fun c => indent ++ "  ! " ++ c.toJson.compact ++ "\n")
    else "")

mutual

/-- The outline of a node at a depth, with `below` more levels. -/
def outlineAt (constraints : Bool) (depth below : Nat) : SchemaNode → String
  | node@⟨_, _, _, _, _, _, _, _, _, _, children⟩ =>
    node.ownLines constraints depth ++
      (if below = 0 then "" else outlineAll constraints (depth + 1) (below - 1) children)

/-- The outlines of several nodes, one after another. -/
def outlineAll (constraints : Bool) (depth below : Nat) : List SchemaNode → String
  | [] => ""
  | node :: rest =>
    node.outlineAt constraints depth below ++ outlineAll constraints depth below rest

end

/-- The outline of a node down to `levels` levels below it. -/
def outline (node : SchemaNode) (levels : Nat) (constraints : Bool) : String :=
  node.outlineAt constraints 0 levels

end SchemaNode

end RouterConfig
