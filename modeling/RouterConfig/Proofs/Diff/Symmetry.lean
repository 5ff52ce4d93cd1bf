/-
RouterConfig.Proofs.Diff.Symmetry — the comparison of two trees exchanged is
the comparison seen from the other side.

`diff_mirror`: the trees exchanged, a comparison has the same entries in the
same order, each seen from the other side (`DiffEntry.swap`). It says so of
grammars and of definitions, with any options.

## How the proof goes

Both comparisons ask one side first. That of grammars asks the left node
whether its path is ignored. The right node would answer alike, for both
have the path of the names that lead to them, so the exchange goes through
level by level (`Laid.diffAt_swap`, over `diffChild_swap` for one name).
That of definitions goes by keys, and the keys of both trees are the same
in either order (`unionPaths_comm`). It asks the left definition how deep it
lies; where a key means the same steps in both trees, the right one lies as
deep (`Coherent.parent_length_eq`).

## Side conditions

The grammars were read from directory trees. Of the definitions we ask that
depth is not limited (`options.maxDepth < 0`) or that the trees are
coherent: under a limit, definitions of one key but other steps may lie on
different sides of it, and then the order of the trees does matter.
-/
import RouterConfig.Proofs.Diff.Levels

namespace RouterConfig

/-! ## 1. Grammars -/

namespace SchemaNode

variable {above : List String} {l r : SchemaNode} {options : DiffOptions}

/-- One name below two nodes, seen from the other side. -/
theorem diffChild_swap {depth : Nat} {name : String}
    (hboth : ∀ a b, l.child? name = some a → r.child? name = some b →
      diffAt options depth b a = (diffAt options depth a b).map DiffEntry.swap) :
    diffChild options depth r l name = (diffChild options depth l r name).map DiffEntry.swap := by
  cases ha : l.child? name with
  | none =>
    cases hb : r.child? name with
    | none => rw [diffChild_neither ha hb, diffChild_neither hb ha, List.map_nil]
    | some b =>
      rw [diffChild_right ha hb, diffChild_left hb ha]
      cases options.ignores b.path <;> rfl
  | some a =>
    cases hb : r.child? name with
    | none =>
      rw [diffChild_left ha hb, diffChild_right hb ha]
      cases options.ignores a.path <;> rfl
    | some b => rw [diffChild_both ha hb, diffChild_both hb ha, hboth a b ha hb]

theorem Laid.diffAt_swap (hl : Laid above l) (hr : Laid above r) (depth : Nat) :
    diffAt options depth r l = (diffAt options depth l r).map DiffEntry.swap := by
  refine Laid.induction (motive := fun _ l r => ∀ depth, diffAt options depth r l =
    (diffAt options depth l r).map DiffEntry.swap) ?_ hl hr depth
  intro above l r hl hr ih depth
  have hpath : r.path = l.path := hr.path_self.trans hl.path_self.symm
  rw [diffAt_eq hl.distinct hr.distinct, diffAt_eq hr.distinct hl.distinct, hpath]
  split
  case isTrue => rfl
  case isFalse =>
    rw [differences_swap, DiffOptions.compared_swap, childNames_comm, List.map_append,
      List.map_flatMap]
    congr 1
    exact List.flatMap_congr fun name _ =>
      diffChild_swap fun a b ha hb => ih name a b ha hb (depth + 1)

end SchemaNode

/-! ## 2. Definitions -/

namespace Definitions

/-- Definitions of one key lie equally deep where the key means the same steps. -/
theorem Coherent.parent_length_eq {l r : Definitions} (hl : Indexed l) (hr : Indexed r)
    (h : Coherent l r) {k : String} {x y : Definition} (hx : l.get? k = some x)
    (hy : r.get? k = some y) : x.parent.length = y.parent.length := by
  have hkey : x.key = y.key := (hl.key_of_get? hx).trans (hr.key_of_get? hy).symm
  have hliteral : x.fullPath.literal = y.fullPath.literal :=
    h x (hl.mem_walk.mpr (by rwa [hl.key_of_get? hx])) y
      (hr.mem_walk.mpr (by rwa [hr.key_of_get? hy])) hkey
  rw [Definition.fullPath_literal, Definition.fullPath_literal] at hliteral
  have hparent : x.parent.literal = y.parent.literal := (List.append_inj' hliteral rfl).1
  simpa [ConfigPath.literal, ConfigPath.length] using congrArg List.length hparent

end Definitions

/-! ## 3. Both -/

/-- **Comparisons are mirror images.** The two trees exchanged, a comparison has the same entries in
the same order, each seen from the other side: for grammars that were read, whatever the options;
for trees made by calls, when depth is not limited or a key means the same steps in both. -/
theorem diff_mirror (options : DiffOptions) :
    (∀ l r : SchemaNode, l.ReadFromDisk → r.ReadFromDisk →
      SchemaNode.diff options r l = (SchemaNode.diff options l r).map DiffEntry.swap) ∧
    ∀ (schema₁ schema₂ : SchemaNode) (policy₁ policy₂ : DuplicatePolicy)
      (calls₁ calls₂ : List Definitions.Call),
      let l := Definitions.build schema₁ policy₁ calls₁
      let r := Definitions.build schema₂ policy₂ calls₂
      options.maxDepth < 0 ∨ Definitions.Coherent l r →
        Definitions.diff options r l = (Definitions.diff options l r).map DiffEntry.swap := by
  refine ⟨fun l r hl hr => hl.laid.diffAt_swap hr.laid 0, ?_⟩
  intro schema₁ schema₂ policy₁ policy₂ calls₁ calls₂ l r h
  rcases h with hdepth | hcoherent
  · exact Definitions.diff_swap_of_neg hdepth l r
  · have hl : Definitions.Indexed l := Definitions.indexed_build schema₁ policy₁ calls₁
    have hr : Definitions.Indexed r := Definitions.indexed_build schema₂ policy₂ calls₂
    refine Definitions.diff_swap fun k x y hx hy => ?_
    rw [hcoherent.parent_length_eq hl hr hx hy]

/-- With a limit on depth, the port that one side lacks changes sides, and so do the values. -/
theorem diff_mirror_services :
    let options : DiffOptions := { maxDepth := 1 }
    let left := Definitions.build default .warn [
      .insertValue (.ofSegments [.fixed "system", .fixed "host-name"]) "edge-01"]
    let right := Definitions.build default .warn [
      .insertValue (.ofSegments [.fixed "system", .fixed "host-name"]) "edge-02",
      .insertValue (.ofSegments [.fixed "service", .fixed "ssh", .fixed "port"]) "22"]
    SchemaNode.diff options SchemaNode.sshAlone SchemaNode.sshWithPort =
      [.modified "ssh" [⟨"multi", "true", "false"⟩], .onlyRight "ssh/port"] ∧
    Definitions.diff options right left = [.onlyLeft "service", .modified "system/host-name"
      [⟨"value", "Some(\"edge-02\")", "Some(\"edge-01\")"⟩]] := by
  constructor
  · rw [(diff_mirror _).1 _ _ SchemaNode.readFromDisk_sshWithPort SchemaNode.readFromDisk_sshAlone]
    decide +kernel
  · rw [(diff_mirror _).2 _ _ _ _ _ _ (.inr (by decide +kernel))]
    decide +kernel

end RouterConfig
