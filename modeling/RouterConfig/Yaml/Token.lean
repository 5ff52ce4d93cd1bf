/-
RouterConfig.Yaml.Token — the tokens of a YAML text.

Indentation is turned into tokens: a block of entries stands between a
start and an end, and a key is announced before it.
-/

namespace RouterConfig.Yaml

/-- How a scalar is written. -/
inductive Style where
  | plain
  | quoted
  /-- A block whose line breaks are kept. -/
  | literal
  /-- A block whose lines are folded. -/
  | folded
  deriving DecidableEq, Inhabited, Repr

/-- A token. -/
inductive Token where
  /-- The version of YAML that a text asks for. -/
  | version (major minor : Nat)
  /-- What a tag handle stands for. -/
  | shorthand (handle expansion : String)
  | documentStart
  | documentEnd
  | blockSequenceStart
  | blockMappingStart
  | blockEnd
  | flowSequenceStart
  | flowSequenceEnd
  | flowMappingStart
  | flowMappingEnd
  | blockEntry
  | flowEntry
  | key
  | value
  | alias (name : String)
  | anchor (name : String)
  | tag (handle suffix : String)
  | scalar (text : String) (style : Style)
  deriving DecidableEq, Inhabited, Repr

end RouterConfig.Yaml
