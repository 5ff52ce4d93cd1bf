/-
RouterConfig.Generation.Basic — the state of a generation run.

A run owns a tree and the sequences of rule numbers, both new, so what it
gives depends on the inventory, the grammar and the settings alone.
-/
import RouterConfig.Definition.Tree
import RouterConfig.RuleCounter
import RouterConfig.Settings.Basic

namespace RouterConfig

/-- Why a run fails. -/
inductive GenerationError where
  | definition (cause : DefinitionError)
  | counter (cause : CounterError)
  deriving DecidableEq, Inhabited, Repr

/-- What is said of the error: no more than of its cause. -/
def GenerationError.message : GenerationError → String
  | .definition cause => cause.message
  | .counter cause => cause.message

/-- What a run has made so far. -/
structure Generation where
  tree : Definitions
  counters : RuleCounters
  deriving Inhabited

namespace Generation

/-- A step of a run. -/
abbrev Run := EStateM GenerationError Generation

/-- An edit of the tree as a step of a run. -/
def edit (change : Definitions.Edit α) : Run α := fun run =>
  match change run.tree with
  | .ok a tree => .ok a { run with tree }
  | .error cause tree => .error (.definition cause) { run with tree }

/-- A change of the rule numbers as a step of a run. -/
def count (change : RuleCounters.Counting α) : Run α := fun run =>
  match change run.counters with
  | .ok a counters => .ok a { run with counters }
  | .error cause counters => .error (.counter cause) { run with counters }

/-- Sets a text as the value at a path. -/
def put (path : ConfigPath) (text : String) : Run Unit := edit (Definitions.insertValue path text)

/-- Sets a text as the value at a path, if there is a text. -/
def putIfSome (path : ConfigPath) : Option String → Run Unit
  | none => return ()
  | some text => put path text

/-- Sets texts as the value at a path. -/
def putAll (path : ConfigPath) (texts : List String) : Run Unit :=
  edit (Definitions.insertValues path texts)

/-- Sets texts as the value at a path, if there are any. -/
def putAny (path : ConfigPath) (texts : List String) : Run Unit :=
  if texts.isEmpty then return () else putAll path texts

/-- Puts a template below a path. -/
def putTemplate (path : ConfigPath) (template : Template) : Run Unit :=
  edit (Definitions.insertTemplate path template)

/-- Sets a text as the value at a path unless it is the value there. What several networks share may
be put more than once. -/
def putShared (path : ConfigPath) (text : String) : Run Unit := do
  let existing := ((← get).tree.get? path.key).map (·.value)
  if existing = some (.single text) then return () else put path text

/-- A run that does the same for each item, in order. -/
def forEach (items : List α) (step : α → Run Unit) : Run Unit :=
  match items with
  | [] => return ()
  | item :: rest => do
    step item
    forEach rest step

end Generation

/-- The path continued by fixed words. -/
def ConfigPath.words (path : ConfigPath) (names : List String) : ConfigPath :=
  path.append (names.map .fixed)

end RouterConfig
