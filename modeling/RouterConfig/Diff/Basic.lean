/-
RouterConfig.Diff.Basic — what a comparison of two trees says.

A comparison is a list of entries, one for a path. Which paths take part is
decided by the options: a limit on depth, and names or paths to ignore.
-/
import RouterConfig.Text.Quoted

namespace RouterConfig

/-! ## 1. Differences -/

/-- A field in which two elements differ, with the two contents as they are shown. -/
structure Difference where
  field : String
  expected : String
  actual : String
  deriving DecidableEq, Inhabited, Repr

namespace Difference

/-- The difference on one line. -/
def message (d : Difference) : String :=
  d.field ++ ": expected " ++ d.expected ++ ", got " ++ d.actual

/-- The difference seen from the other side. -/
def swap (d : Difference) : Difference := ⟨d.field, d.actual, d.expected⟩

/-- The difference in a field, if the contents differ. -/
def ofField [DecidableEq α] (field : String) (render : α → String) (expected actual : α) :
    List Difference :=
  if expected = actual then [] else [⟨field, render expected, render actual⟩]

theorem ofField_eq_nil_iff [DecidableEq α] {field : String} {render : α → String} {a b : α} :
    ofField field render a b = [] ↔ a = b := by
  unfold ofField; split <;> simp_all

theorem ofField_swap [DecidableEq α] (field : String) (render : α → String) (a b : α) :
    ofField field render b a = (ofField field render a b).map swap := by
  unfold ofField
  by_cases h : a = b
  · simp [h]
  · simp [h, Ne.symm h, swap]

end Difference

/-! ## 2. Entries -/

/-- What a comparison says about a path. -/
inductive DiffEntry (α : Type u) where
  /-- Both sides have it, and they agree. -/
  | identical (path : String)
  /-- Both sides have it, and these are the differences. -/
  | modified (path : String) (differences : List α)
  /-- Only the left side has it, with all below it. -/
  | onlyLeft (path : String)
  /-- Only the right side has it, with all below it. -/
  | onlyRight (path : String)
  deriving DecidableEq, Inhabited, Repr

namespace DiffEntry

/-- The path of an entry. -/
def path : DiffEntry α → String
  | .identical path | .modified path _ | .onlyLeft path | .onlyRight path => path

/-- The entry with its differences changed. -/
def map (f : α → β) : DiffEntry α → DiffEntry β
  | .identical path => .identical path
  | .modified path differences => .modified path (differences.map f)
  | .onlyLeft path => .onlyLeft path
  | .onlyRight path => .onlyRight path

/-- The entry seen from the other side. -/
def swap : DiffEntry Difference → DiffEntry Difference
  | .identical path => .identical path
  | .modified path differences => .modified path (differences.map Difference.swap)
  | .onlyLeft path => .onlyRight path
  | .onlyRight path => .onlyLeft path

/-- The entry with the texts of its differences. -/
def inWords (entry : DiffEntry Difference) : DiffEntry String := entry.map Difference.message

end DiffEntry

/-! ## 3. Options -/

/-- What takes part in a comparison. -/
structure DiffOptions where
  /-- Whether paths without a difference are listed. -/
  includeIdentical : Bool := false
  /-- The depth down to which paths are compared; a negative one is no limit. -/
  maxDepth : Int := -1
  /-- Paths, or single names, that are left out with all below them. -/
  ignore : List String := []
  deriving Inhabited, Repr

namespace DiffOptions

/-- Whether one of the ignored texts is a run of whole steps of the path. -/
def ignores (options : DiffOptions) (path : String) : Bool :=
  let cs := path.toList
  options.ignore.any fun text =>
    let name := text.toList
    path == text || (name ++ ['/']).isPrefixOf cs || ('/' :: name).isSuffixOf cs ||
      Text.occursIn ('/' :: name ++ ['/']) cs

/-- Whether a depth lies beyond the limit. -/
def exceeds (options : DiffOptions) (depth : Nat) : Bool :=
  0 ≤ options.maxDepth && options.maxDepth < depth

/-- The entry of a path that both sides have. -/
def compared (options : DiffOptions) (path : String) (differences : List Difference) :
    List (DiffEntry Difference) :=
  if !differences.isEmpty then [.modified path differences]
  else if options.includeIdentical then [.identical path]
  else []

end DiffOptions

end RouterConfig
