/-
RouterConfig.Proofs.Merge.Override — when a merge overrides what the target
had.

`preserves_iff_closed`: a merge of two trees made by calls that succeeds
keeps what the target had (`Preserves`) exactly when the target has, with
each key of the source, the keys above it there (`Closed`).

`overridden_by_merge`: the step `a/b` of one tree and the steps `a` and `b`
of another have one key, and the value that the first tree had is lost
without an error.

## How the proof goes

Adopting a branch looks at the key at its top alone. Where the source is
closed in the target, no key further down is one of the target, so a look-up
leads where it led and no key is recorded twice (`Adopts.preserves`). Where
it is not, some key of the target stands below the top of a branch that is
adopted (`mem_walkAll_missingAll`). It then stands at two places
(`Adopts.not_nodup`).

## Side conditions

Only that the merge succeeds. Nothing is asked of the steps of the trees:
which steps do harm is what the theorem tells.
-/
import RouterConfig.Proofs.Merge.Union

namespace RouterConfig

namespace Definitions

open Definition

/-- What the first tree has is found in the second with the same value, no two definitions of the
second have one key, and all of them are counted. -/
structure Preserves (t r : Definitions) : Prop where
  values : ∀ k x, t.get? k = some x → ∃ y, r.get? k = some y ∧ y.key = k ∧ y.value = x.value
  distinct : (r.walk.map (·.key)).Nodup
  size_eq : r.size = r.walk.length

/-- What is below a definition that the tree lacks is part of a missing branch. -/
theorem mem_walkAll_missingAll {t : Definitions} {ds : List Definition} {a e : Definition}
    (ha : a ∈ walkAll ds) (hlacks : t.contains a.key = false) (he : e ∈ a.walk) :
    e ∈ walkAll (missingAll t ds) := by
  induction ds using forest_induction with
  | nil => simp at ha
  | cons d rest ihd ihr =>
    rw [walkAll] at ha
    cases hc : t.contains d.key with
    | false =>
      rw [missingAll_cons_of_missing rest hc, walkAll, List.mem_append]
      rcases List.mem_append.mp ha with ha | ha
      · left
        rw [← walkAll_singleton] at ha ⊢
        exact mem_walkAll_trans ha he
      · exact .inr (ihr ha)
    | true =>
      rw [missingAll_cons_of_shared rest hc, walkAll_append, List.mem_append]
      rcases List.mem_append.mp ha with ha | ha
      · rw [walk_eq] at ha
        rcases List.mem_cons.mp ha with rfl | ha
        · rw [hc] at hlacks
          cases hlacks
        · exact .inl (ihd ha)
      · exact .inr (ihr ha)

section

variable {t s r : Definitions} (ht : Indexed t) (h : Adopts t (missingAll t s.roots) r)
include ht h

/-- A missing branch without keys of the target changes nothing that the target had. -/
theorem Adopts.preserves (hs : Indexed s) (hclosed : Closed t s.roots) : Preserves t r := by
  have hr := h.indexed_of_closed ht hs hclosed
  refine ⟨?_, hr.nodup_keys, hr.size_eq⟩
  intro k x hx
  obtain ⟨⟨y, hy, hbare⟩, -⟩ := (h.unites ht hs hclosed).kept k x hx
  refine ⟨y, hy, hr.key_of_get? hy, ?_⟩
  rw [← bare_value, hbare, bare_value]

/-- A key of the target in a missing branch stands at two places afterwards. -/
theorem Adopts.not_nodup {e : Definition} (he : e ∈ walkAll (missingAll t s.roots))
    (hcontains : t.contains e.key = true) : ¬ (r.walk.map (·.key)).Nodup := by
  intro hnodup
  rw [ht.contains_eq] at hcontains
  obtain ⟨x, hx⟩ := Option.isSome_iff_exists.mp hcontains
  obtain ⟨l, -, hat, hkey⟩ := ht.get?_eq_some.mp hx
  obtain ⟨y, hy, hbare⟩ := face?_eq_some.mp (h.kept l _ (face?_of_at? hat))
  have hykey : y.key = e.key := by
    rw [← bare_key, hbare, bare_key, hkey]
  obtain ⟨l', -, hat', hnone⟩ := h.added e he
  obtain rfl := location_unique hnodup hy hat' hykey
  rw [face?_of_at? hat] at hnone
  cases hnone

end

/-- **A merge of two trees made by calls that succeeds overrides nothing and records no key twice
exactly when the first tree has, with each key of the second, the keys above it there.** -/
theorem preserves_iff_closed (schema₁ schema₂ : SchemaNode) (policy₁ policy₂ : DuplicatePolicy)
    (calls₁ calls₂ : List Call) (r : Definitions)
    (h : merge (build schema₁ policy₁ calls₁) (build schema₂ policy₂ calls₂) = .ok r) :
    Preserves (build schema₁ policy₁ calls₁) r ↔
      Closed (build schema₁ policy₁ calls₁) (build schema₂ policy₂ calls₂).roots := by
  have ht := indexed_build schema₁ policy₁ calls₁
  have hs := indexed_build schema₂ policy₂ calls₂
  obtain ⟨-, hadopts⟩ := merge_ok ht hs h
  constructor
  · intro hpreserves a ha e he hcontains
    cases hc : (build schema₁ policy₁ calls₁).contains a.key with
    | true => rfl
    | false =>
      exact absurd hpreserves.distinct
        (hadopts.not_nodup ht (mem_walkAll_missingAll ha hc he) hcontains)
  · intro hclosed
    exact hadopts.preserves ht hs hclosed

/-- Two names below one step, each in one of the trees. -/
theorem preserves_iff_closed_siblings :
    let left := build default .warn [.insertValue (.ofSegments [.fixed "net", .value "a"]) "1"]
    let right := build default .warn [.insertValue (.ofSegments [.fixed "net", .value "b"]) "2"]
    ∃ r, merge left right = .ok r ∧ (Preserves left r ↔ Closed left right.roots) := by
  intro left right
  have hok : (merge left right).toOption.isSome = true := by decide +kernel
  cases hr : merge left right with
  | error cause =>
    rw [hr] at hok
    cases hok
  | ok r => exact ⟨r, rfl, preserves_iff_closed _ _ _ _ _ _ r hr⟩

/-- The step `a/b` of one tree and the steps `a` and `b` of another have one key. The merge
succeeds, the value of the first is not found any more, and there are two definitions of
that key. -/
theorem overridden_by_merge :
    let left := build default .warn [.insertValue (.ofSegments [.fixed "a/b"]) "1"]
    let right := build default .warn [.insertValue (.ofSegments [.fixed "a", .fixed "b"]) "2"]
    ∃ r, merge left right = .ok r ∧
      (left.get? "a/b").map (·.value) = some (.single "1") ∧
      (r.get? "a/b").map (·.value) = some (.single "2") ∧
      r.walk.map (·.key) = ["a/b", "a", "a/b"] ∧ r.size = 2 ∧ ¬ Preserves left r := by
  intro left right
  have hleft : (left.get? "a/b").map (·.value) = some (.single "1") := by decide +kernel
  have hmerge : (merge left right).toOption.any (fun r => decide
      ((r.get? "a/b").map (·.value) = some (.single "2") ∧
        r.walk.map (·.key) = ["a/b", "a", "a/b"] ∧ r.size = 2)) = true := by decide +kernel
  cases hr : merge left right with
  | error cause =>
    rw [hr] at hmerge
    cases hmerge
  | ok r =>
    rw [hr] at hmerge
    obtain ⟨hvalue, hkeys, hsize⟩ := of_decide_eq_true hmerge
    refine ⟨r, rfl, hleft, hvalue, hkeys, hsize, ?_⟩
    intro hpreserves
    have hdistinct := hpreserves.distinct
    rw [hkeys] at hdistinct
    exact absurd hdistinct (by decide)

end Definitions

end RouterConfig
