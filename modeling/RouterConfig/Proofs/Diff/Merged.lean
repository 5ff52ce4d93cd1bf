/-
RouterConfig.Proofs.Diff.Merged — what a comparison foretells of a merge,
and what it finds afterwards.

`merge_agrees_with_diff`: of two trees made by calls, `MergeAgrees` holds.
They can be merged exactly when no entry of their comparison tells of two
values. Compared with the first tree, the merge then only has more; compared
with the second, it lacks nothing and has the same values.

## How the proof goes

The merge compares values as they are, the comparison by two projections. A
value is known by these, so an entry tells of values exactly when the values
differ (`aboutValue_differences`), and no entry does exactly when the trees
agree where they meet (`forall_aboutValue_iff`). That is the condition under
which they can be merged (`Coherent.merge_ok_iff`). The merge itself is
known by `Coherent.merge_spec`: what the first tree has is kept, so its
entries say nothing of it, and the second tree agrees with the merge as it
agrees with itself and with the first (`Coherent.agreeing_merge`).

## Side conditions

`Coherent`, as for the merge. Compared with the second tree the merge may
still differ in comments and grammar nodes, which it has from the first.
-/
import RouterConfig.Proofs.Diff.Completeness
import RouterConfig.Proofs.Merge.Order

namespace RouterConfig

/-! ## 1. Entries about values -/

/-- Whether the difference is one of values. -/
def Difference.aboutValue (d : Difference) : Bool := d.field == "value" || d.field == "values"

/-- Whether the entry tells of two values. -/
def DiffEntry.aboutValue : DiffEntry Difference → Bool
  | .modified _ differences => differences.any (·.aboutValue)
  | .identical _ | .onlyLeft _ | .onlyRight _ => false

namespace Definition

theorem aboutValue_nodeDifferences (a b : Option SchemaNode) :
    (nodeDifferences a b).any (·.aboutValue) = false := by
  have hprefix : ∀ field : String,
      "schema node " ++ field ≠ "value" ∧ "schema node " ++ field ≠ "values" := by
    intro field
    simp [← String.toList_inj]
  cases a <;> cases b <;> simp [nodeDifferences, Difference.aboutValue, hprefix]

/-- Two definitions have differences about values when they have two values. -/
theorem aboutValue_differences (x y : Definition) :
    (x.differences y).any (·.aboutValue) = true ↔ x.value ≠ y.value := by
  have hfield : ∀ {β : Type} [DecidableEq β] (field : String) (render : β → String) (b b' : β),
      (Difference.ofField field render b b').any (·.aboutValue) =
        (decide (b ≠ b') && (field == "value" || field == "values")) := by
    intro β _ field render b b'
    unfold Difference.ofField
    split <;> simp [Difference.aboutValue, *]
  rw [Ne, Value.eq_iff, not_and_or]
  simp [differences, hfield, aboutValue_nodeDifferences]

end Definition

namespace Definitions

open Definition

variable {options : DiffOptions} {l r : Definitions} {k : String}

/-- An entry is about a key of both trees, or about one of one tree. -/
theorem mem_diff_cases (whole : options.Unlimited) {e : DiffEntry Difference}
    (h : e ∈ diff options l r) :
    (∃ x y, l.get? e.path = some x ∧ r.get? e.path = some y ∧
        e ∈ options.compared e.path (x.differences y)) ∨
      (∃ x, l.get? e.path = some x ∧ r.get? e.path = none ∧ e = .onlyLeft e.path) ∨
      (∃ y, l.get? e.path = none ∧ r.get? e.path = some y ∧ e = .onlyRight e.path) := by
  rw [mem_diff] at h
  cases hx : l.get? e.path with
  | none =>
    cases hy : r.get? e.path with
    | none =>
      rw [diffPath_neither hx hy] at h
      cases h
    | some y =>
      rw [diffPath_right whole hx hy] at h
      split at h
      · cases h
      · exact .inr (.inr ⟨y, rfl, rfl, List.mem_singleton.mp h⟩)
  | some x =>
    cases hy : r.get? e.path with
    | none =>
      rw [diffPath_left whole hx hy] at h
      split at h
      · cases h
      · exact .inr (.inl ⟨x, rfl, rfl, List.mem_singleton.mp h⟩)
    | some y =>
      rw [diffPath_both whole hx hy] at h
      exact .inl ⟨x, y, rfl, rfl, h⟩

/-- With default options a key of both trees is an entry only where its definitions differ. -/
theorem mem_compared_default {e : DiffEntry Difference} {differences : List Difference} :
    e ∈ DiffOptions.compared {} k differences ↔ differences ≠ [] ∧ e = .modified k differences := by
  cases differences <;> simp [DiffOptions.compared]

/-- No entry tells of two values exactly when the trees agree where they meet. -/
theorem forall_aboutValue_iff :
    (∀ e ∈ diff {} l r, e.aboutValue = false) ↔ Agreeing l r := by
  have whole := DiffOptions.unlimited_whole false
  constructor
  · intro h k v w hv hw
    obtain ⟨x, hx, rfl⟩ := Option.map_eq_some_iff.mp hv
    obtain ⟨y, hy, rfl⟩ := Option.map_eq_some_iff.mp hw
    by_contra hne
    have habout := (aboutValue_differences x y).mpr hne
    have hmem : .modified k (x.differences y) ∈ diff {} l r := by
      rw [mem_diff]
      show _ ∈ diffPath {} l r k
      rw [diffPath_both whole hx hy, mem_compared_default]
      refine ⟨?_, rfl⟩
      intro hnil
      rw [hnil] at habout
      cases habout
    exact absurd (h _ hmem) (by simpa [DiffEntry.aboutValue] using habout)
  · intro h e he
    rcases mem_diff_cases whole he with ⟨x, y, hx, hy, hmem⟩ | ⟨_, _, _, hone⟩ | ⟨_, _, _, hone⟩
    · have hsame := h e.path x.value y.value (by rw [value?, hx]; rfl) (by rw [value?, hy]; rfl)
      obtain ⟨-, hentry⟩ := mem_compared_default.mp hmem
      rw [hentry, DiffEntry.aboutValue, ← Bool.not_eq_true, aboutValue_differences]
      exact absurd hsame
    · rw [hone]
      rfl
    · rw [hone]
      rfl

/-! ## 2. Before and after a merge -/

/-- What comparisons say of a merge of two trees. -/
structure MergeAgrees (t s : Definitions) : Prop where
  ok_iff : (∃ m, merge t s = .ok m) ↔ ∀ e ∈ diff {} t s, e.aboutValue = false
  /-- The merge is the first tree with branches added. -/
  extends_first : ∀ m, merge t s = .ok m → ∀ e ∈ diff {} m t, ∃ k, e = .onlyLeft k
  /-- The merge lacks nothing of the second tree and has its values. -/
  covers_second : ∀ m, merge t s = .ok m → ∀ e ∈ diff {} m s,
    (∀ k, e ≠ .onlyRight k) ∧ e.aboutValue = false

theorem matches_of_bare {x y : Definition} (h : y.bare = x.bare) : y.Matches x := by
  refine ⟨?_, ?_, ?_, ?_, ?_⟩
  · rw [← bare_name, h, bare_name]
  · rw [← bare_parent, h, bare_parent]
  · rw [← bare_comment, h, bare_comment]
  · rw [← bare_value, h, bare_value]
  · have hnode : y.node = x.node := by rw [← bare_node, h, bare_node]
    rw [hnode]
    cases x.node with
    | none => exact .none
    | some n => exact .some ⟨rfl, rfl, rfl, rfl, rfl⟩

theorem Coherent.mergeAgrees {t s : Definitions} (ht : Indexed t) (hs : Indexed s)
    (h : Coherent t s) : MergeAgrees t s := by
  have whole := DiffOptions.unlimited_whole false
  constructor
  case ok_iff => rw [h.merge_ok_iff ht hs, forall_aboutValue_iff]
  case extends_first =>
    intro m hm e he
    have hkept := ((h.merge_spec ht hs).ok m hm).kept
    rcases mem_diff_cases whole he with ⟨y, x, hy, hx, hmem⟩ | ⟨_, _, _, hone⟩ | ⟨x, hy, hx, -⟩
    · obtain ⟨⟨y', hy', hbare⟩, -⟩ := hkept e.path x hx
      obtain rfl : y = y' := Option.some.inj (hy.symm.trans hy')
      exact absurd (differences_eq_nil_iff.mpr (matches_of_bare hbare))
        (mem_compared_default.mp hmem).1
    · exact ⟨_, hone⟩
    · obtain ⟨⟨y, hy', -⟩, -⟩ := hkept e.path x hx
      rw [hy] at hy'
      cases hy'
  case covers_second =>
    intro m hm e he
    have hvalue := h.value?_merge ht hs hm
    have hagree := (h.merge_ok_iff ht hs).mp ⟨m, hm⟩
    constructor
    · rintro k rfl
      rcases mem_diff_cases whole he with ⟨_, _, _, _, hmem⟩ | ⟨_, _, _, hone⟩ | ⟨x, hy, hx, -⟩
      · cases (mem_compared_default.mp hmem).2
      · cases hone
      · have := hvalue k
        simp only [DiffEntry.path] at hy hx
        rw [value?, hy, value?, value?, hx] at this
        cases ht' : t.get? k <;> simp [ht'] at this
    · refine forall_aboutValue_iff.mpr ?_ e he
      refine (h.agreeing_merge ht hs hm).mpr ⟨hagree, ?_⟩
      intro k v w hv hw
      exact Option.some.inj (hv.symm.trans hw)

/-- **Two trees made by calls, whose keys mean the same paths, can be merged exactly when their
comparison has no entry about values; the merge then only adds to the first, and has all that the
second has, with its values.** -/
theorem merge_agrees_with_diff (schema₁ schema₂ : SchemaNode) (policy₁ policy₂ : DuplicatePolicy)
    (calls₁ calls₂ : List Call)
    (h : Coherent (build schema₁ policy₁ calls₁) (build schema₂ policy₂ calls₂)) :
    MergeAgrees (build schema₁ policy₁ calls₁) (build schema₂ policy₂ calls₂) :=
  h.mergeAgrees (indexed_build schema₁ policy₁ calls₁) (indexed_build schema₂ policy₂ calls₂)

/-- Two trees that differ in a comment can be merged. -/
theorem merge_agrees_with_diff_comment :
    let noted := build default .warn [
      .insertValue (.ofSegments [.fixed "service", .fixed "ssh", .fixed "port"]) "22",
      .setComment (.ofSegments [.fixed "service", .fixed "ssh"]) "remote shell"]
    let plain := build default .warn [
      .insertValue (.ofSegments [.fixed "service", .fixed "ssh", .fixed "port"]) "22",
      .ensure (.ofSegments [.fixed "service", .fixed "ntp"])]
    (diff {} noted plain).map (·.path) = ["service/ntp", "service/ssh"] ∧
      MergeAgrees noted plain :=
  ⟨by decide +kernel, merge_agrees_with_diff _ _ _ _ _ _ (by decide +kernel)⟩

end Definitions

end RouterConfig
