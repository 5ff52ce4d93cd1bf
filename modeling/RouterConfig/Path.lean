/-
RouterConfig.Path — configuration paths, as configured and as the grammar
knows them.

A step of a path has a literal text (`LAN-IN`) and a text under which the
grammar is searched (`node.tag`). The two differ only at tag values, where
the grammar has one placeholder for every value. Whether a step is a tag
value is not kept: it is read off the two texts, so a tag value that is
spelled like the placeholder is the placeholder.
-/
import RouterConfig.Text.Basic

namespace RouterConfig

/-! ## 1. Segments -/

/-- The name under which the grammar keeps what stands below any value of a tag. -/
def placeholder : String := "node.tag"

/-- One component of a path, as a caller gives it. -/
inductive Segment where
  /-- A word of the grammar. -/
  | fixed (name : String)
  /-- A value that the caller supplies at a tag. -/
  | value (text : String)
  deriving DecidableEq, Inhabited, Repr

namespace Segment

/-- The text as configured. -/
def literal : Segment → String
  | .fixed name => name
  | .value text => text

/-- The text for the grammar. -/
def schema : Segment → String
  | .fixed name => name
  | .value _ => placeholder

/-- Whether the segment is given as a tag value. -/
def isValue : Segment → Bool
  | .fixed _ => false
  | .value _ => true

end Segment

/-! ## 2. Steps -/

/-- One step of a path: its literal text beside its text for the grammar. -/
structure Step where
  literal : String
  schema : String
  /-- The grammar knows a step by its own text or by the placeholder. -/
  coherent : schema = literal ∨ schema = placeholder
  deriving DecidableEq, Repr

namespace Step

/-- The step that a segment makes. -/
def ofSegment (s : Segment) : Step where
  literal := s.literal
  schema := s.schema
  coherent := by cases s <;> simp [Segment.schema, Segment.literal]

instance : Inhabited Step := ⟨ofSegment default⟩

/-- Whether the step is a tag value: the grammar has the placeholder where the text is another. -/
def isValue (s : Step) : Bool := s.schema == placeholder && s.literal != placeholder

/-- The segment that a step stands for. -/
def segment (s : Step) : Segment := if s.isValue then .value s.literal else .fixed s.literal

/-- A step is rebuilt from the segment that it stands for. -/
@[simp] theorem ofSegment_segment (s : Step) : ofSegment s.segment = s := by
  obtain ⟨literal, schema, h⟩ := s
  unfold segment isValue ofSegment
  rcases h with rfl | rfl
  · by_cases hp : schema = placeholder <;> simp [hp, Segment.literal, Segment.schema]
  · by_cases hp : literal = placeholder <;> simp [hp, Segment.literal, Segment.schema]

end Step

/-! ## 3. Paths -/

/-- A path: its steps from the root down. -/
structure ConfigPath where
  steps : List Step
  deriving DecidableEq, Inhabited, Repr

namespace ConfigPath

/-- The path of no steps. -/
def root : ConfigPath := ⟨[]⟩

/-- The path that continues a path by segments. -/
def append (path : ConfigPath) (segments : List Segment) : ConfigPath :=
  ⟨path.steps ++ segments.map Step.ofSegment⟩

/-- The path of these segments. -/
def ofSegments (segments : List Segment) : ConfigPath := root.append segments

/-- The path without its last `n` steps, continued by segments. -/
def diverge (path : ConfigPath) (n : Nat) (segments : List Segment) : ConfigPath :=
  append ⟨path.steps.take (path.steps.length - n)⟩ segments

/-- The path without its last step; the root has no parent. -/
def parent? (path : ConfigPath) : Option ConfigPath :=
  if path.steps.isEmpty then none else some (path.diverge 1 [])

/-- The number of steps. -/
def length (path : ConfigPath) : Nat := path.steps.length

/-- Whether the path is the root. -/
def isRoot (path : ConfigPath) : Bool := path.steps.isEmpty

/-- The steps as configured. -/
def literal (path : ConfigPath) : List String := path.steps.map (·.literal)

/-- The steps as the grammar knows them. -/
def schema (path : ConfigPath) : List String := path.steps.map (·.schema)

/-- The last step as configured. -/
def last? (path : ConfigPath) : Option String := path.steps.getLast?.map (·.literal)

/-- Whether the step at this place is a tag value. -/
def isValueAt (path : ConfigPath) (i : Nat) : Bool := path.steps[i]?.any (·.isValue)

/-- The segment at this place. -/
def segment? (path : ConfigPath) (i : Nat) : Option Segment := path.steps[i]?.map (·.segment)

/-- The segments of the whole path. -/
def segments (path : ConfigPath) : List Segment := path.steps.map (·.segment)

/-- The literal path as one text, which is the key of a definition. A step may hold a slash itself,
so different paths may have one key. -/
def key (path : ConfigPath) : String := Text.join "/" path.literal

/-- The path for the grammar as one text. -/
def schemaKey (path : ConfigPath) : String := Text.join "/" path.schema

end ConfigPath

end RouterConfig
