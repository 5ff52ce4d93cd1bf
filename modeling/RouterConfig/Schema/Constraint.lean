/-
RouterConfig.Schema.Constraint — conditions on the value of a node, and
whether a value meets one.

A condition that needs a command of the device, or that has no known
shape, is kept but cannot be checked; neither can a pattern that has no
reading. Which patterns have one, and what they match, is a parameter of
the check.
-/
import RouterConfig.Text.Basic
import RouterConfig.Text.Integer

namespace RouterConfig

/-- How patterns are read: what a pattern says of a text, or `none` for a text that is
no pattern. -/
abbrev PatternReader := String → Option (String → Bool)

/-- A condition on a value. The reason, where the grammar gives one, is what a failed check says. -/
inductive Constraint where
  /-- The value is one of these. -/
  | allowedValues (values : List String) (reason : Option String)
  /-- The value is none of these. -/
  | disallowedValues (values : List String) (reason : Option String)
  /-- A command of the device lists the values. -/
  | allowedCommand (command : String)
  /-- A command of the device checks the value. -/
  | validateCommand (command : String) (reason : Option String)
  /-- The pattern matches part of the value. -/
  | pattern (pattern : String) (reason : Option String)
  /-- The pattern matches no part of the value. -/
  | negatedPattern (pattern : String) (reason : Option String)
  /-- The value is a number within the bounds, both included. -/
  | range (min max : Option Int64) (reason : Option String)
  /-- A condition of no known shape. -/
  | unrecognized (expression : String) (reason : Option String)
  deriving DecidableEq, Inhabited, Repr

/-- The outcome of checking a value. -/
inductive Check where
  | pass
  | fail (message : String)
  | unchecked
  deriving DecidableEq, Inhabited, Repr

namespace Constraint

/-- The reason that the grammar gives for a failure. -/
def reason : Constraint → Option String
  | .allowedCommand _ => none
  | .allowedValues _ r | .disallowedValues _ r | .validateCommand _ r | .pattern _ r
  | .negatedPattern _ r | .range _ _ r | .unrecognized _ r => r

/-- The constraint with another reason. A command that lists values takes none. -/
def withReason (reason : Option String) : Constraint → Constraint
  | .allowedValues vs _ => .allowedValues vs reason
  | .disallowedValues vs _ => .disallowedValues vs reason
  | .allowedCommand c => .allowedCommand c
  | .validateCommand c _ => .validateCommand c reason
  | .pattern p _ => .pattern p reason
  | .negatedPattern p _ => .negatedPattern p reason
  | .range lo hi _ => .range lo hi reason
  | .unrecognized e _ => .unrecognized e reason

/-- What a failed check of a value says. -/
def failure (constraint : Constraint) (value : String) : String :=
  constraint.reason.getD ("value '" ++ value ++ "' is not allowed")

/-- Whether a number is within bounds. -/
def inBounds (min max : Option Int64) (n : Int64) : Bool :=
  min.all (· ≤ n) && max.all (n ≤ ·)

/-- Whether a value meets the condition; `none` when that cannot be checked here. -/
def holds? (patterns : PatternReader) (constraint : Constraint) (value : String) : Option Bool :=
  match constraint with
  | .allowedValues values _ => some (values.contains value)
  | .disallowedValues values _ => some (!values.contains value)
  | .pattern p _ => (patterns p).map fun found => found value
  | .negatedPattern p _ => (patterns p).map fun found => !found value
  | .range min max _ =>
    some ((Text.readInt64 (Text.trimChars value.toList)).any (inBounds min max))
  | .allowedCommand _ | .validateCommand .. | .unrecognized .. => none

/-- The outcome of checking a value. -/
def check (patterns : PatternReader) (constraint : Constraint) (value : String) : Check :=
  match constraint.holds? patterns value with
  | some true => .pass
  | some false => .fail (constraint.failure value)
  | none => .unchecked

@[simp] theorem holds?_withReason (patterns : PatternReader) (c : Constraint) (r : Option String)
    (value : String) : (c.withReason r).holds? patterns value = c.holds? patterns value := by
  cases c <;> rfl

end Constraint

end RouterConfig
