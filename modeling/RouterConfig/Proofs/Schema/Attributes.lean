/-
RouterConfig.Proofs.Schema.Attributes — what a grammar text says of a node,
and what it leaves alone.

A scope says something of a node when it has one of the plain names, or is
a condition of the form that is understood (`Scope.Recognized`); that does
not depend on the node. The scopes of a text give attributes only: the
name, the path and the children of the node stay.
-/
import Mathlib.Data.List.Basic
import RouterConfig.Schema.Grammar

namespace RouterConfig.Schema

/-- The names of the scopes that say something whatever their text is. -/
def plainScopes : List String :=
  ["tag", "multi", "type", "help", "val_help", "value-help", "allowed"]

/-- The scope says something about a node. -/
def Scope.Recognized (scope : Scope) : Prop :=
  scope.name ∈ plainScopes ∨
    scope.name = "syntax" ∧ "expression:".toList <+: Text.trimStart scope.text.toList

/-- A beginning can be dropped exactly when the text begins with it. -/
theorem dropStart?_isSome {start cs : List Char} :
    (Text.dropStart? start cs).isSome = true ↔ start <+: cs := by
  rw [Text.dropStart?, ← List.isPrefixOf_iff_prefix]
  split
  case isTrue h => exact iff_of_true rfl h
  case isFalse h => exact iff_of_false (by simp) h

/-- Whether a scope says something does not depend on the node. -/
theorem applyScope?_isSome {node : SchemaNode} {scope : Scope} :
    (applyScope? node scope).isSome = true ↔ scope.Recognized := by
  unfold applyScope? Scope.Recognized
  split
  case h_8 heq =>
    have hplain : "syntax" ∉ plainScopes := by decide
    rw [Option.isSome_map, dropStart?_isSome, heq, or_iff_right hplain, and_iff_right rfl]
  case h_9 htag hmulti htype hhelp hhint hhint' hallowed hsyntax =>
    refine iff_of_false (by simp) ?_
    rintro (hplain | ⟨heq, -⟩)
    · simp only [plainScopes, List.mem_cons, List.not_mem_nil, or_false] at hplain
      rcases hplain with heq | heq | heq | heq | heq | heq | heq <;> contradiction
    · exact hsyntax heq
  -- the other scopes are known by their names
  all_goals
    rename_i heq
    refine iff_of_true rfl (.inl ?_)
    rw [heq]
    decide

theorem applyScope?_keeps {node node' : SchemaNode} {scope : Scope}
    (h : applyScope? node scope = some node') :
    node'.name = node.name ∧ node'.path = node.path ∧ node'.children = node.children := by
  unfold applyScope? at h
  split at h
  case h_8 =>
    obtain ⟨rest, -, rfl⟩ := Option.map_eq_some_iff.mp h
    exact ⟨rfl, rfl, rfl⟩
  case h_9 => cases h
  all_goals
    obtain rfl := Option.some.inj h
    exact ⟨rfl, rfl, rfl⟩

/-- Scopes give attributes only. -/
theorem applyScopes_keeps (node : SchemaNode) (scopes : List Scope) :
    (applyScopes node scopes).1.name = node.name ∧ (applyScopes node scopes).1.path = node.path ∧
      (applyScopes node scopes).1.children = node.children := by
  induction scopes generalizing node with
  | nil => exact ⟨rfl, rfl, rfl⟩
  | cons scope rest ih =>
    rw [applyScopes]
    cases h : applyScope? node scope with
    | none => exact ih node
    | some next =>
      obtain ⟨hname, hpath, hchildren⟩ := applyScope?_keeps h
      obtain ⟨hname', hpath', hchildren'⟩ := ih next
      exact ⟨hname'.trans hname, hpath'.trans hpath, hchildren'.trans hchildren⟩

/-- A text counts where a scope of it says something. -/
theorem applyScopes_pos {node : SchemaNode} {scopes : List Scope} :
    0 < (applyScopes node scopes).2 ↔ ∃ scope ∈ scopes, scope.Recognized := by
  induction scopes generalizing node with
  | nil => simp [applyScopes]
  | cons scope rest ih =>
    have hscope := @applyScope?_isSome node scope
    rw [applyScopes, List.exists_mem_cons_iff]
    cases h : applyScope? node scope with
    | none =>
      rw [h] at hscope
      have hnot : ¬ scope.Recognized := fun hr => by simpa using hscope.mpr hr
      rw [or_iff_right hnot]
      exact ih
    | some next =>
      rw [h] at hscope
      exact iff_of_true (Nat.succ_pos _) (.inl (hscope.mp rfl))

end RouterConfig.Schema
