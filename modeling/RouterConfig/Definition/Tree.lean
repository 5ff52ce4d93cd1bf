/-
RouterConfig.Definition.Tree — the tree of all definitions, addressed by
path.

Beside the tree stand two indexes under the keys of definitions: where a
definition is, and which grammar node it has. A look-up goes through the
first. Since a key joins the steps of a path by slashes, and a step may
hold a slash, one key may stand for several paths; the definition that was
put under it last is the one that is found.

An edit either succeeds or stops with an error. What it did before the
error stays done.
-/
import RouterConfig.Definition.Basic
import RouterConfig.Dictionary
import RouterConfig.Template

namespace RouterConfig

/-! ## 1. Errors and policies -/

/-- Why a tree cannot be changed as asked. -/
inductive DefinitionError where
  /-- A value is already there, or a definition is to be attached where one is. -/
  | duplicatePath (path : String)
  /-- Nothing can stand below a definition that holds a value. -/
  | notContainer (path : String)
  /-- A definition with others below it can hold no value. -/
  | valueOnContainer (path : String)
  | parentNotFound (path : String)
  | emptyPath
  deriving DecidableEq, Inhabited, Repr

/-- What is said of the error. -/
def DefinitionError.message : DefinitionError → String
  | .duplicatePath path => "duplicate definition at " ++ path
  | .notContainer path => "definition at " ++ path ++ " holds a value and cannot have children"
  | .valueOnContainer path => "definition at " ++ path ++ " has children and cannot hold a value"
  | .parentNotFound path => "parent definition not found: " ++ path
  | .emptyPath => "definition path is empty"

/-- What happens when a value is set where there is one. -/
inductive DuplicatePolicy where
  /-- The last value counts. -/
  | warn
  /-- It is an error. -/
  | reject
  deriving DecidableEq, Inhabited, Repr

/-! ## 2. Places in a tree -/

/-- A place in a tree: the positions to go to among the roots, then among the children, and
so on. -/
abbrev Location := List Nat

namespace Definition

/-- The definition at a place. -/
def at? (roots : List Definition) : Location → Option Definition
  | [] => none
  | [i] => roots[i]?
  | i :: j :: rest => roots[i]?.bind fun d => at? d.children (j :: rest)

/-- The definitions below a place; the roots are below the empty place. -/
def below? (roots : List Definition) : Location → Option (List Definition)
  | [] => some roots
  | i :: rest => roots[i]?.bind fun d => below? d.children rest

/-- The definitions on the way to a place, that place included. -/
def along (roots : List Definition) : Location → List Definition
  | [] => []
  | i :: rest =>
    match roots[i]? with
    | none => []
    | some d => d :: along d.children rest

/-- The roots with a definition put last below a place. -/
def appendAt (new : Definition) : Location → List Definition → List Definition
  | [], roots => roots ++ [new]
  | i :: rest, roots => roots.modify i fun d => { d with children := appendAt new rest d.children }

/-- The roots with the definition at a place changed. -/
def modifyAt (f : Definition → Definition) : Location → List Definition → List Definition
  | [], roots => roots
  | [i], roots => roots.modify i f
  | i :: j :: rest, roots =>
    roots.modify i fun d => { d with children := modifyAt f (j :: rest) d.children }

end Definition

/-! ## 3. Trees -/

/-- A tree of definitions for a grammar. -/
structure Definitions where
  schema : SchemaNode
  policy : DuplicatePolicy
  roots : List Definition
  /-- Where the definition of a key stands. -/
  index : Dictionary Location
  /-- The grammar node of a key, where there is one. -/
  bindings : Dictionary SchemaNode

namespace Definitions

/-- The tree without definitions. -/
def new (schema : SchemaNode) (policy : DuplicatePolicy) : Definitions :=
  ⟨schema, policy, [], ∅, ∅⟩

instance : Inhabited Definitions := ⟨new default default⟩

/-- The number of keys under which a definition can be found. -/
def size (t : Definitions) : Nat := t.index.size

/-- Whether no definition can be found. -/
def isEmpty (t : Definitions) : Bool := t.index.isEmpty

/-- The keys under which a definition can be found, in order. -/
def paths (t : Definitions) : List String := t.index.keys

/-- Whether a definition can be found under a key. -/
def contains (t : Definitions) (key : String) : Bool := t.index.contains key

/-- The definition at a place. -/
def at? (t : Definitions) (location : Location) : Option Definition :=
  Definition.at? t.roots location

/-- The definition of a key. -/
def get? (t : Definitions) (key : String) : Option Definition := (t.index.get? key).bind t.at?

/-- The grammar node recorded under a key. -/
def binding? (t : Definitions) (key : String) : Option SchemaNode := t.bindings.get? key

/-- The definitions from the root down to that of a key. -/
def chain (t : Definitions) (key : String) : List Definition :=
  match t.index.get? key with
  | none => []
  | some location => Definition.along t.roots location

/-- All definitions, each before those below it. -/
def walk (t : Definitions) : List Definition := Definition.walkAll t.roots

/-- The tree with a place, and a grammar node if there is one, recorded under a key. -/
def register (t : Definitions) (key : String) (location : Location) (node : Option SchemaNode) :
    Definitions :=
  { t with
    index := t.index.insert key location
    bindings := match node with
      | some node => t.bindings.insert key node
      | none => t.bindings }

/-! ## 4. Edits -/

/-- A change of a tree, which may stop with an error and then keeps what it did. -/
abbrev Edit := EStateM DefinitionError Definitions

/-- Puts a definition last below a place and answers where it then stands. The error names the
parent, should there be nothing at that place. -/
def place (parent : ConfigPath) (location : Location) (new : Definition) : Edit Location := do
  let t ← get
  match Definition.below? t.roots location with
  | none => throw (.parentNotFound parent.key)
  | some siblings =>
    set { t with roots := Definition.appendAt new location t.roots }
    return location ++ [siblings.length]

/-- Finds the definition below `done` to which `steps` lead, making the ones that are missing.
`location` is where the definition at `done` stands. -/
def ensureBelow (done : ConfigPath) (location : Location) : List Step → Edit Location
  | [] => return location
  | step :: rest => do
    let here : ConfigPath := ⟨done.steps ++ [step]⟩
    let t ← get
    match t.index.get? here.key with
    | some found =>
      if !rest.isEmpty && (t.at? found).any (·.isLeaf) then throw (.notContainer here.key)
      ensureBelow here found rest
    | none =>
      let new := Definition.bound t.schema done step.segment
      let location ← place done location new
      modify fun t => t.register here.key location new.node
      ensureBelow here location rest

/-- Finds the definition at a path, making it and the ones above it where they are missing, and
answers where it stands. -/
def ensure (path : ConfigPath) : Edit Location :=
  if path.isRoot then throw .emptyPath else ensureBelow .root [] path.steps

/-- Changes the definition at a place. -/
def update (location : Location) (f : Definition → Definition) : Edit Unit :=
  modify fun t => { t with roots := Definition.modifyAt f location t.roots }

/-- Refuses a value where a definition has others below it, and under the strict policy where it has
a value. -/
def checkVacant (path : ConfigPath) : Edit Unit := do
  let t ← get
  match t.get? path.key with
  | none => return ()
  | some existing =>
    if !existing.children.isEmpty then throw (.valueOnContainer path.key)
    if existing.isLeaf && t.policy == .reject then throw (.duplicatePath path.key)

/-- Sets the value at a path. -/
def setValue (path : ConfigPath) (value : Value) : Edit Unit := do
  checkVacant path
  let location ← ensure path
  update location fun d => { d with value }

/-- Sets one text as the value at a path. -/
def insertValue (path : ConfigPath) (text : String) : Edit Unit := setValue path (.single text)

/-- Sets several texts as the value at a path. -/
def insertValues (path : ConfigPath) (texts : List String) : Edit Unit :=
  setValue path (.multi texts)

/-- Sets the comment at a path. -/
def setComment (path : ConfigPath) (comment : String) : Edit Unit := do
  let location ← ensure path
  update location fun d => { d with comment := some comment }

/-- The path of an entry of a template that is put below `above`. -/
def entryPath (schema : SchemaNode) (above : ConfigPath) (name : String) : ConfigPath :=
  above.append [Segment.under (schema.at? above) name]

mutual

/-- Puts what stands under one name of a template at a path. -/
def insertEntry (schema : SchemaNode) (path : ConfigPath) : TemplateValue → Edit Unit
  | .scalar scalar => insertValue path scalar.render
  | .list items => insertValues path (items.map Scalar.render)
  | .node entries => do
    discard (ensure path)
    insertEntries schema path entries
  | .presence => discard (ensure path)

/-- Puts the entries of a template below a path, in order. -/
def insertEntries (schema : SchemaNode) (above : ConfigPath) : TemplateEntries → Edit Unit
  | [] => return ()
  | (name, value) :: rest => do
    insertEntry schema (entryPath schema above name) value
    insertEntries schema above rest

end

/-- Puts a template below a path; below the root path it makes roots. -/
def insertTemplate (above : ConfigPath) (template : Template) : Edit Unit := do
  insertEntries (← get).schema above template.entries

mutual

/-- The places, keys and grammar nodes of a definition that stands at a place and of all
below it. -/
def registrations (location : Location) : Definition → List (Location × String × Option SchemaNode)
  | d@⟨_, _, node, _, _, _, children⟩ =>
    (location, d.key, node) :: registrationsBelow location 0 children

/-- The places, keys and grammar nodes of definitions that stand next to each other below a place,
the first of them at position `i`, and of all below them. -/
def registrationsBelow (location : Location) (i : Nat) :
    List Definition → List (Location × String × Option SchemaNode)
  | [] => []
  | d :: rest =>
    registrations (location ++ [i]) d ++ registrationsBelow location (i + 1) rest

end

/-- Where a definition attached below a path belongs. -/
def attachmentPlace (parent : ConfigPath) : Edit Location := do
  if parent.isRoot then return []
  let t ← get
  match t.index.get? parent.key with
  | none => throw (.parentNotFound parent.key)
  | some location =>
    if (t.at? location).any (·.isLeaf) then throw (.notContainer parent.key)
    return location

/-- Puts a definition, with all below it, last below the definition at a path; at the root path it
becomes a root. Only its own key has to be free. -/
def attach (parent : ConfigPath) (d : Definition) : Edit Unit := do
  if (← get).contains d.key then throw (.duplicatePath d.key)
  let location ← attachmentPlace parent
  let location ← place parent location d
  modify fun t => (registrations location d).foldl (fun t (location, key, node) =>
    t.register key location node) t

end Definitions

end RouterConfig
