/-
RouterConfig.Definition.Basic — configured elements.

A definition is one configured element: its segment, the path of its
parent, the grammar nodes of both where the grammar has them, and either a
value or further definitions below it.
-/
import RouterConfig.Schema.Node

namespace RouterConfig

/-! ## 1. Values -/

/-- The value of a definition. -/
inductive Value where
  | empty
  | single (text : String)
  | multi (texts : List String)
  deriving DecidableEq, Inhabited, Repr

namespace Value

/-- Whether there is no value. -/
def isEmpty : Value → Bool
  | .empty => true
  | .single _ | .multi _ => false

/-- The texts of a value in order. -/
def toList : Value → List String
  | .empty => []
  | .single text => [text]
  | .multi texts => texts

/-- The value on one line. -/
def render : Value → String
  | .empty => ""
  | .single text => text
  | .multi texts => "[" ++ Text.join ", " texts ++ "]"

/-- The text of a single value. -/
def single? : Value → Option String
  | .single text => some text
  | _ => none

/-- The texts of a value that takes several. -/
def multi? : Value → Option (List String)
  | .multi texts => some texts
  | _ => none

end Value

/-! ## 2. Definitions -/

/-- The node of a grammar at a path; the root of the grammar stands at the root path. -/
def SchemaNode.at? (schema : SchemaNode) (path : ConfigPath) : Option SchemaNode :=
  schema.descend? path.schema

/-- One configured element. -/
structure Definition where
  segment : Segment
  /-- The path of the element above. -/
  parent : ConfigPath
  /-- The grammar node of this element. -/
  node : Option SchemaNode := none
  /-- The grammar node of the element above. -/
  parentNode : Option SchemaNode := none
  comment : Option String := none
  value : Value := .empty
  children : List Definition := []
  deriving Inhabited

namespace Definition

/-- The name of the element. -/
def name (d : Definition) : String := d.segment.literal

/-- The path of the element itself. -/
def fullPath (d : Definition) : ConfigPath := d.parent.append [d.segment]

/-- The key of the element: its path as one text. -/
def key (d : Definition) : String := d.fullPath.key

/-- Whether the element holds a value. -/
def isLeaf (d : Definition) : Bool := !d.value.isEmpty

/-- An empty element with the grammar nodes of its path and of its parent's. -/
def bound (schema : SchemaNode) (parent : ConfigPath) (segment : Segment) : Definition where
  segment
  parent
  node := schema.at? (parent.append [segment])
  parentNode := schema.at? parent

/-- The first child of this name. -/
def child? (d : Definition) (name : String) : Option Definition :=
  d.children.find? fun child => child.name == name

/-- The definition that names lead down to. -/
def find? (d : Definition) : List String → Option Definition
  | [] => some d
  | name :: rest => (d.child? name).bind fun child => child.find? rest

mutual

/-- The definition and all below it, each before those below it. -/
def walk : Definition → List Definition
  | d@⟨_, _, _, _, _, _, children⟩ => d :: walkAll children

/-- Several definitions and all below them. -/
def walkAll : List Definition → List Definition
  | [] => []
  | d :: rest => d.walk ++ walkAll rest

end

end Definition

end RouterConfig
