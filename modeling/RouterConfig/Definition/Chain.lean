/-
RouterConfig.Definition.Chain — definitions for a path and a template,
built on their own and not in a tree.

A path gives a chain of definitions, one for each step, each the only child
of the one before. A template gives the children of the last.
-/
import RouterConfig.Definition.Basic
import RouterConfig.Template

namespace RouterConfig.Definition

mutual

/-- The definition of a template entry below `above`. -/
def ofEntry (schema : SchemaNode) (above : ConfigPath) (segment : Segment) :
    TemplateValue → Definition
  | .scalar scalar =>
    { bound schema above segment with value := .single scalar.render }
  | .list items =>
    { bound schema above segment with value := .multi (items.map Scalar.render) }
  | .node entries =>
    let here := above.append [segment]
    { bound schema above segment with
      children := entriesBelow schema here (schema.at? here) entries }
  | .presence => bound schema above segment

/-- The definitions of template entries below `above`, whose grammar node is `node`, in order. -/
def entriesBelow (schema : SchemaNode) (above : ConfigPath) (node : Option SchemaNode) :
    TemplateEntries → List Definition
  | [] => []
  | (name, value) :: rest =>
    ofEntry schema above (Segment.under node name) value :: entriesBelow schema above node rest

end

/-- The chain for the steps after `done`, with a template below its last definition. There is none
for no steps. -/
def chainBelow (schema : SchemaNode) (template : Template) (done : ConfigPath) :
    List Step → Option Definition
  | [] => none
  | step :: rest =>
    let here : ConfigPath := ⟨done.steps ++ [step]⟩
    let d := bound schema done step.segment
    match chainBelow schema template here rest with
    | none => some { d with children := entriesBelow schema here (schema.at? here) template.entries }
    | some child => some { d with children := [child] }

/-- The chain for a path with a template below its last definition. -/
def populated? (schema : SchemaNode) (path : ConfigPath) (template : Template) :
    Option Definition :=
  chainBelow schema template .root path.steps

/-- The chain for a path, with nothing below it. -/
def sparse? (schema : SchemaNode) (path : ConfigPath) : Option Definition :=
  populated? schema path ∅

end RouterConfig.Definition
