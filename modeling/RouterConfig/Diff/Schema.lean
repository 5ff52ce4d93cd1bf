/-
RouterConfig.Diff.Schema — the comparison of two grammars.

The two trees are walked together, name by name in order. A node that one
side lacks is one entry for all below it.
-/
import RouterConfig.Diff.Basic
import RouterConfig.Schema.Node

namespace RouterConfig

/-- A truth value as difference messages show it. -/
def showBool (b : Bool) : String := if b then "true" else "false"

namespace SchemaNode

/-- The differences of two nodes, apart from what is below them. -/
def differences (expected actual : SchemaNode) : List Difference :=
  Difference.ofField "name" Text.quote expected.name actual.name ++
  Difference.ofField "type" ValueType.title expected.type actual.type ++
  Difference.ofField "is_tag" showBool expected.isTag actual.isTag ++
  Difference.ofField "multi" showBool expected.multi actual.multi ++
  Difference.ofField "path" Text.quote expected.path actual.path

/-- Named parts in the order of their names, one after another. -/
def joinByName (parts : List (String × List α)) : List α :=
  (parts.mergeSort fun a b => decide (a.1 ≤ b.1)).flatMap (·.2)

/-- The entries for nodes that only the right side has. -/
def onlyRightParts (options : DiffOptions) (left right : List SchemaNode) :
    List (String × List (DiffEntry Difference)) :=
  (right.filter fun r => !left.any fun l => l.name == r.name).map fun r =>
    (r.name, if options.ignores r.path then [] else [.onlyRight r.path])

mutual

/-- The entries of two nodes at a depth and of all below them. -/
def diffAt (options : DiffOptions) (depth : Nat) :
    SchemaNode → SchemaNode → List (DiffEntry Difference)
  | left@⟨_, _, _, _, _, _, _, _, _, _, children⟩, right =>
    if options.ignores left.path || options.exceeds depth then []
    else
      options.compared left.path (differences left right) ++
        joinByName (diffChildren options (depth + 1) children right ++
          onlyRightParts options children right.children)

/-- The entries for the children of a left node, each under its name, against a right node. -/
def diffChildren (options : DiffOptions) (depth : Nat) :
    List SchemaNode → SchemaNode → List (String × List (DiffEntry Difference))
  | [], _ => []
  | l :: rest, right =>
    (l.name,
      match right.child? l.name with
      | some r => diffAt options depth l r
      | none => if options.ignores l.path then [] else [.onlyLeft l.path]) ::
    diffChildren options depth rest right

end

/-- The comparison of two grammars. -/
def diff (options : DiffOptions) (left right : SchemaNode) : List (DiffEntry Difference) :=
  diffAt options 0 left right

end SchemaNode

end RouterConfig
