/-
RouterConfig.Schema.Node — the nodes of a grammar.

A node carries the attributes that its grammar file declares, its path from
the root, and its children in the order of their names. Every child is known
by its own name, so a look-up goes by name.
-/
import RouterConfig.Path
import RouterConfig.Schema.Constraint
import RouterConfig.Schema.ValueType

namespace RouterConfig

/-- A node of the grammar. -/
structure SchemaNode where
  /-- The name of its directory. -/
  name : String
  /-- The declared type of its value. -/
  type : ValueType := .unset
  help : Option String := none
  /-- Hints on values, as they were met. -/
  valueHelp : List String := []
  /-- Whether what stands below is named by a caller's value. -/
  isTag : Bool := false
  /-- Whether it takes several values. -/
  multi : Bool := false
  /-- The names from below the root down to this node, between slashes; empty at the root. -/
  path : String
  /-- The command that lists allowed values, as written. -/
  allowed : Option String := none
  /-- The conditions on its value, as written. -/
  expressions : List String := []
  /-- What `allowed` and `expressions` demand. -/
  constraints : List Constraint := []
  children : List SchemaNode := []
  deriving Inhabited

namespace SchemaNode

/-- The child of this name. -/
def child? (node : SchemaNode) (name : String) : Option SchemaNode :=
  node.children.find? fun child => child.name == name

/-- The child below which the values of a tag are described. -/
def tagChild? (node : SchemaNode) : Option SchemaNode := node.child? placeholder

/-- The node that names lead down to, the node itself for none. -/
def descend? (node : SchemaNode) : List String → Option SchemaNode
  | [] => some node
  | name :: rest => (node.child? name).bind fun child => child.descend? rest

/-- The node strictly below that names lead to: there is none for no names. -/
def find? (node : SchemaNode) (names : List String) : Option SchemaNode :=
  if names.isEmpty then none else node.descend? names

/-- Whether the node has no children. -/
def isLeaf (node : SchemaNode) : Bool := node.children.isEmpty

mutual

/-- The number of nodes from this one down. -/
def count : SchemaNode → Nat
  | ⟨_, _, _, _, _, _, _, _, _, _, children⟩ => 1 + countAll children

/-- The number of nodes of several trees. -/
def countAll : List SchemaNode → Nat
  | [] => 0
  | node :: rest => node.count + countAll rest

end

/-- The node on one line: its name, and its type, marks and help where it has them. -/
def headline (node : SchemaNode) : String :=
  node.name ++
    (if node.type = .unset then "" else " <" ++ node.type.token ++ ">") ++
    (if node.isTag then " [tag]" else "") ++
    (if node.multi then " [multi]" else "") ++
    (match node.help with
      | some help => " - " ++ help
      | none => "")

/-- What is wrong with a value of this node: its type, then each constraint that fails. -/
def objections (patterns : PatternReader) (node : SchemaNode) (value : String) : List String :=
  (if node.type.admits value then []
    else ["'" ++ value ++ "' is not a valid " ++ node.type.token]) ++
  node.constraints.filterMap fun constraint =>
    match constraint.check patterns value with
    | .fail message => some message
    | .pass | .unchecked => none

end SchemaNode

/-- The segment of a name below a node: a value below a tag, a fixed word elsewhere. -/
def Segment.under (parent : Option SchemaNode) (name : String) : Segment :=
  if parent.any (·.isTag) then .value name else .fixed name

end RouterConfig
