/-
RouterConfig.Definition.Validation — what a grammar objects to in a tree.

A tag value is checked against the node of its tag. A definition without
others below it needs a grammar node, and its values are checked against
that node. How patterns are read is a parameter.
-/
import RouterConfig.Definition.Tree

namespace RouterConfig

/-- An objection to the definition at a path. -/
structure Issue where
  path : String
  message : String
  deriving DecidableEq, Inhabited, Repr

namespace Definition

/-- The objections to the name of a tag value. -/
def nameObjections (patterns : PatternReader) (d : Definition) : List String :=
  match d.segment, d.parentNode with
  | .value name, some tag => tag.objections patterns name
  | _, _ => []

/-- The objections to the value of a definition without others below it. -/
def valueObjections (patterns : PatternReader) (d : Definition) : List String :=
  if !d.children.isEmpty then []
  else
    match d.node with
    | none => ["no schema node for this path"]
    | some node =>
      (match d.value with
        | .multi _ => if node.multi then [] else ["node does not accept multiple values"]
        | _ => []) ++
      d.value.toList.flatMap (node.objections patterns)

/-- The issues of one definition. -/
def issues (patterns : PatternReader) (d : Definition) : List Issue :=
  (d.nameObjections patterns ++ d.valueObjections patterns).map fun message => ⟨d.key, message⟩

end Definition

/-- The issues of all definitions of a tree, in the order of the tree. -/
def Definitions.validate (patterns : PatternReader) (t : Definitions) : List Issue :=
  t.walk.flatMap (Definition.issues patterns)

end RouterConfig
