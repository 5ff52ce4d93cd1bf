/-
RouterConfig.Merge — one tree out of several that were built apart.

A definition that the target lacks is adopted with everything below it. Two
definitions with values must have the same value. Two without are
reconciled child by child. A value never meets a definition without one.
The first conflict ends the merge, and what was adopted before stays.
-/
import RouterConfig.Definition.Tree

namespace RouterConfig

/-- Why trees cannot be merged. -/
inductive MergeError where
  /-- Both trees have a value at the path, and the values differ. -/
  | valueConflict (path : String) (left right : Value)
  /-- One tree has a value at the path, the other a definition without one. -/
  | shapeConflict (path : String)
  /-- A definition could not be adopted. -/
  | definition (cause : DefinitionError)
  deriving DecidableEq, Inhabited, Repr

/-- What is said of the error. -/
def MergeError.message : MergeError → String
  | .valueConflict path left right =>
    "conflicting values at " ++ path ++ ": '" ++ left.render ++ "' vs '" ++ right.render ++ "'"
  | .shapeConflict path => "cannot merge a value with a container at " ++ path
  | .definition cause => "failed to adopt definition: " ++ cause.message

namespace Definitions

/-- A change of the target of a merge. -/
abbrev Merging := EStateM MergeError Definitions

/-- Adopts a definition with all below it. -/
def adopt (d : Definition) : Merging Unit := fun t =>
  match attach d.parent d t with
  | .ok () t => .ok () t
  | .error cause t => .error (.definition cause) t

mutual

/-- Merges a definition into the target. -/
def absorb : Definition → Merging Unit
  | d@⟨_, _, _, _, _, _, children⟩ => do
    let t ← get
    match t.get? d.key with
    | none => adopt d
    | some existing =>
      match existing.isLeaf, d.isLeaf with
      | true, true =>
        if existing.value ≠ d.value then throw (.valueConflict d.key existing.value d.value)
      | false, false => absorbAll children
      | _, _ => throw (.shapeConflict d.key)

/-- Merges several definitions into the target, in order. -/
def absorbAll : List Definition → Merging Unit
  | [] => return ()
  | d :: rest => do
    absorb d
    absorbAll rest

end

/-- Merges a tree into the target. -/
def absorbTree (source : Definitions) : Merging Unit := absorbAll source.roots

/-- The first of two trees with the second merged into it. -/
def merge (target source : Definitions) : Except MergeError Definitions :=
  match absorbTree source target with
  | .ok () t => .ok t
  | .error e _ => .error e

/-- All trees merged into the first, from left to right; none for no trees. -/
def mergeAll : List Definitions → Except MergeError (Option Definitions)
  | [] => .ok none
  | target :: sources => (sources.foldlM merge target).map some

end Definitions

end RouterConfig
