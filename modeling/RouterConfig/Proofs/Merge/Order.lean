/-
RouterConfig.Proofs.Merge.Order — merging many trees does not depend on
their order.

`mergeAll_perm`: a list of trees and any reordering of it are merged with
the same outcome (`OrderFree`). Either both lists can be merged, namely when
every two of the trees agree where they meet, and then give the same keys
with the same values; or neither can.

## How the proof goes

Of trees whose keys mean the same paths, only the values matter:

* a merge has the values of both trees (`Coherent.value?_merge`), and its
  keys mean what theirs do (`Coherent.merged`);
* it succeeds when the trees agree (`Coherent.merge_ok_iff`);
* a third tree agrees with the merge when it agrees with both
  (`Coherent.agreeing_merge`).

The fold over the list keeps all three, so a tree meets in the accumulator
every tree that was merged before (`foldlM_merge`, by induction on the
list). What comes out speaks of the trees as a set (`mergeAll_spec`), and a
reordering is the same set.

## Side conditions

The trees are made by calls (`Made`), and every two of them are coherent.
The order of siblings and the comments are not part of `SameContent`: they
do depend on the order of the list.
-/
import RouterConfig.Proofs.Definition.Values
import RouterConfig.Proofs.Merge.Union

namespace RouterConfig

namespace Definitions

open Definition

/-! ## 1. A merge as a union of values -/

/-- A key of both trees has one value. -/
def Agreeing (t s : Definitions) : Prop :=
  ∀ k v w, t.value? k = some v → s.value? k = some w → v = w

theorem Agreeing.symm {t s : Definitions} (h : Agreeing t s) : Agreeing s t :=
  fun k v w hv hw => (h k w v hw hv).symm

section Merge

variable {t s r u : Definitions} (ht : Indexed t) (hs : Indexed s) (h : Coherent t s)
include ht hs h

theorem Coherent.merge_ok_iff : (∃ r, merge t s = .ok r) ↔ Agreeing t s := by
  rw [(h.merge_spec ht hs).ok_iff]
  constructor
  · intro hsame k v w hv hw
    obtain ⟨x, hx, rfl⟩ := Option.map_eq_some_iff.mp hv
    obtain ⟨e, he, rfl⟩ := Option.map_eq_some_iff.mp hw
    exact hsame k x e hx he
  · intro hagree k x e hx he
    exact hagree k _ _ (by rw [value?, hx]; rfl) (by rw [value?, he]; rfl)

variable (hr : merge t s = .ok r)
include hr

theorem Coherent.indexed : Indexed r :=
  (merge_ok ht hs hr).2.indexed_of_closed ht hs (h.closed ht hs)

/-- The merge has the definitions of both trees, but for what is below them. -/
theorem Coherent.get?_merge {k : String} {y : Definition} (hy : r.get? k = some y) :
    (∃ x, t.get? k = some x ∧ y.bare = x.bare) ∨ t.get? k = none ∧ s.get? k = some y := by
  have hunites := (h.merge_spec ht hs).ok r hr
  cases hx : t.get? k with
  | some x =>
    obtain ⟨⟨y', hy', hbare⟩, -⟩ := hunites.kept k x hx
    obtain rfl : y = y' := Option.some.inj (hy.symm.trans hy')
    exact .inl ⟨x, rfl, hbare⟩
  | none =>
    right
    have hmem : k ∈ t.paths ∨ k ∈ s.paths :=
      (hunites.paths k).mp ((h.indexed ht hs hr).mem_paths_iff_get?.mpr ⟨y, hy⟩)
    rw [ht.mem_paths_iff_get?, hs.mem_paths_iff_get?, hx] at hmem
    obtain ⟨_, hnone⟩ | ⟨e, he⟩ := hmem
    · cases hnone
    · rw [(hunites.added k e hx he).1] at hy
      obtain rfl := Option.some.inj hy
      exact ⟨rfl, he⟩

/-- The merge has the values of both trees, those of the first where both have one. -/
theorem Coherent.value?_merge (k : String) : r.value? k = (t.value? k).or (s.value? k) := by
  cases hy : r.get? k with
  | some y =>
    rcases h.get?_merge ht hs hr hy with ⟨x, hx, hbare⟩ | ⟨hx, he⟩
    · have hvalue : y.value = x.value := by rw [← bare_value, hbare, bare_value]
      simp [value?, hy, hx, hvalue]
    · simp [value?, hy, hx, he]
  | none =>
    have hlacks : k ∉ r.paths := by
      rw [(h.indexed ht hs hr).mem_paths_iff_get?, hy]
      simp
    rw [((h.merge_spec ht hs).ok r hr).paths, not_or, ht.mem_paths_iff_get?,
      hs.mem_paths_iff_get?] at hlacks
    simp only [not_exists, ← Option.eq_none_iff_forall_ne_some] at hlacks
    simp [value?, hy, hlacks.1, hlacks.2]

/-- The keys of the merge mean what those of the two trees do. -/
theorem Coherent.merged (htu : Coherent t u) (hsu : Coherent s u) : Coherent r u := by
  intro y hy e he hkey
  have hy' := (h.indexed ht hs hr).mem_walk.mp hy
  rcases h.get?_merge ht hs hr hy' with ⟨x, hx, hbare⟩ | ⟨-, hy'⟩
  · have hxy : x.key = y.key := by rw [← bare_key x, ← hbare, bare_key]
    have hpath : y.fullPath.literal = x.fullPath.literal := by
      rw [fullPath_literal, fullPath_literal, ← bare_parent, ← bare_name, hbare, bare_parent,
        bare_name]
    rw [hpath]
    exact htu x (ht.mem_walk.mpr (by rwa [hxy])) e he (hxy.trans hkey)
  · exact hsu y (hs.mem_walk.mpr hy') e he hkey

/-- A tree agrees with the merge when it agrees with both trees. -/
theorem Coherent.agreeing_merge : Agreeing r u ↔ Agreeing t u ∧ Agreeing s u := by
  have hagree := (h.merge_ok_iff ht hs).mp ⟨r, hr⟩
  have hvalue := h.value?_merge ht hs hr
  constructor
  · intro hru
    constructor
    · intro k v w hv hw
      exact hru k v w (by rw [hvalue, hv]; rfl) hw
    · intro k v w hv hw
      cases htk : t.value? k with
      | none => exact hru k v w (by rw [hvalue, htk, hv]; rfl) hw
      | some v' =>
        obtain rfl := hagree k v' v htk hv
        exact hru k v' w (by rw [hvalue, htk]; rfl) hw
  · rintro ⟨htu, hsu⟩ k v w hv hw
    rw [hvalue] at hv
    rcases Option.or_eq_some_iff.mp hv with hv | ⟨-, hv⟩
    · exact htu k v w hv hw
    · exact hsu k v w hv hw

end Merge

/-! ## 2. The fold -/

/-- Trees whose keys mean the same paths can be merged into the first when every two of them agree;
the merge then has the values of all of them and no others. -/
theorem foldlM_merge {t : Definitions} {sources : List Definitions}
    (indexed : ∀ u ∈ t :: sources, Indexed u) (coherent : (t :: sources).Pairwise Coherent) :
    ((∃ r, sources.foldlM merge t = .ok r) ↔ (t :: sources).Pairwise Agreeing) ∧
      ∀ r, sources.foldlM merge t = .ok r → Indexed r ∧
        ∀ k v, r.value? k = some v ↔ ∃ u ∈ t :: sources, u.value? k = some v := by
  induction sources generalizing t with
  | nil =>
    refine ⟨by simp [pure, Except.pure], ?_⟩
    rintro r hr
    obtain rfl : t = r := Except.ok.inj hr
    exact ⟨indexed t List.mem_cons_self, by simp⟩
  | cons s rest ih =>
    have ht := indexed t List.mem_cons_self
    have hs := indexed s (by simp)
    rw [List.pairwise_cons, List.pairwise_cons] at coherent
    obtain ⟨hfirst, hsecond, hrest⟩ := coherent
    have hts : Coherent t s := hfirst s List.mem_cons_self
    rw [List.foldlM_cons]
    cases hm : merge t s with
    | error cause =>
      have hdiffer : ¬ Agreeing t s := by
        rw [← hts.merge_ok_iff ht hs, hm]
        rintro ⟨r, hr⟩
        cases hr
      constructor
      · constructor
        · rintro ⟨r, hr⟩
          cases hr
        · intro hagree
          exact absurd ((List.pairwise_cons.mp hagree).1 s List.mem_cons_self) hdiffer
      · intro r hr
        cases hr
    | ok m =>
      have hagree := (hts.merge_ok_iff ht hs).mp ⟨m, hm⟩
      have indexed' : ∀ u ∈ m :: rest, Indexed u :=
        List.forall_mem_cons.mpr ⟨hts.indexed ht hs hm, fun u hu => indexed u (by simp [hu])⟩
      have coherent' : (m :: rest).Pairwise Coherent :=
        List.pairwise_cons.mpr ⟨fun u hu => hts.merged ht hs hm
          (hfirst u (List.mem_cons_of_mem _ hu)) (hsecond u hu), hrest⟩
      obtain ⟨hok, hvalues⟩ := ih indexed' coherent'
      constructor
      · refine hok.trans ?_
        simp only [List.pairwise_cons, List.forall_mem_cons, hts.agreeing_merge ht hs hm, hagree,
          true_and, forall_and]
        tauto
      · intro r hr
        refine ⟨(hvalues r hr).1, fun k v => ?_⟩
        rw [(hvalues r hr).2 k v]
        simp only [List.mem_cons, exists_eq_or_imp, hts.value?_merge ht hs hm,
          Option.or_eq_some_iff]
        constructor
        · rintro ((hv | ⟨-, hv⟩) | hv)
          · exact .inl hv
          · exact .inr (.inl hv)
          · exact .inr (.inr hv)
        · rintro (hv | hv | hv)
          · exact .inl (.inl hv)
          · cases htk : t.value? k with
            | none => exact .inl (.inr ⟨rfl, hv⟩)
            | some w => exact .inl (.inl (congrArg some (hagree k w v htk hv)))
          · exact .inr hv

/-! ## 3. Any order -/

/-- Trees that calls make from the empty one. -/
def Made (t : Definitions) : Prop := ∃ schema policy calls, t = build schema policy calls

theorem Made.indexed {t : Definitions} : Made t → Indexed t := by
  rintro ⟨schema, policy, calls, rfl⟩
  exact indexed_build schema policy calls

/-- The trees have the same keys with the same values. -/
structure SameContent (t t' : Definitions) : Prop where
  paths : ∀ k, k ∈ t.paths ↔ k ∈ t'.paths
  values : ∀ k, t.value? k = t'.value? k

theorem sameContent_of_values {t t' : Definitions} (ht : Indexed t) (ht' : Indexed t')
    (h : ∀ k, t.value? k = t'.value? k) : SameContent t t' := by
  refine ⟨fun k => ?_, h⟩
  have hk := congrArg Option.isSome (h k)
  rw [value?, value?, Option.isSome_map, Option.isSome_map, ← ht.contains_eq,
    ← ht'.contains_eq] at hk
  rw [mem_paths_iff_contains, mem_paths_iff_contains, hk]

/-- The trees are merged whenever every two of them agree, and either list gives the
same content. -/
structure OrderFree (trees trees' : List Definitions) : Prop where
  ok_iff : (∃ r, mergeAll trees = .ok r) ↔ ∃ r, mergeAll trees' = .ok r
  ok_iff_agreeing : (∃ r, mergeAll trees = .ok r) ↔ trees.Pairwise Agreeing
  same : ∀ r r', mergeAll trees = .ok r → mergeAll trees' = .ok r' → Option.Rel SameContent r r'

/-- What several trees give when merged is told by the trees, and not by their order. -/
theorem mergeAll_spec {trees : List Definitions} (indexed : ∀ t ∈ trees, Indexed t)
    (coherent : trees.Pairwise Coherent) :
    ((∃ r, mergeAll trees = .ok r) ↔ trees.Pairwise Agreeing) ∧
      ∀ r, mergeAll trees = .ok r → (r = none ∧ trees = []) ∨ ∃ t, r = some t ∧ Indexed t ∧
        trees ≠ [] ∧ ∀ k v, t.value? k = some v ↔ ∃ u ∈ trees, u.value? k = some v := by
  cases trees with
  | nil => simp [mergeAll]
  | cons t sources =>
    obtain ⟨hok, hvalues⟩ := foldlM_merge indexed coherent
    rw [← hok, mergeAll]
    cases hfold : sources.foldlM merge t with
    | error cause => simp [Except.map]
    | ok r =>
      obtain ⟨hindexed, hvalue⟩ := hvalues r hfold
      refine ⟨by simp [Except.map], ?_⟩
      intro r' hr'
      obtain rfl : some r = r' := Except.ok.inj hr'
      exact .inr ⟨r, rfl, hindexed, by simp, hvalue⟩

/-- **Trees made by calls, whose keys mean the same paths, can be merged in any order: either every
order succeeds, namely when every two of them agree, and gives the same content, or none does.** -/
theorem mergeAll_perm {trees trees' : List Definitions} (made : ∀ t ∈ trees, Made t)
    (coherent : trees.Pairwise Coherent) (perm : trees.Perm trees') : OrderFree trees trees' := by
  have indexed : ∀ t ∈ trees, Indexed t := fun t ht => (made t ht).indexed
  have indexed' : ∀ t ∈ trees', Indexed t := fun t ht => indexed t (perm.mem_iff.mpr ht)
  have coherent' : trees'.Pairwise Coherent := (perm.pairwise_iff Coherent.symm).mp coherent
  obtain ⟨hok, hvalues⟩ := mergeAll_spec indexed coherent
  obtain ⟨hok', hvalues'⟩ := mergeAll_spec indexed' coherent'
  refine ⟨?_, hok, ?_⟩
  · rw [hok, hok', perm.pairwise_iff Agreeing.symm]
  · intro r r' hr hr'
    rcases hvalues r hr with ⟨rfl, rfl⟩ | ⟨t, rfl, ht, hne, hvalue⟩
    · rcases hvalues' r' hr' with ⟨rfl, -⟩ | ⟨t', -, -, hne', -⟩
      · exact .none
      · exact absurd (List.nil_perm.mp perm) hne'
    · rcases hvalues' r' hr' with ⟨-, rfl⟩ | ⟨t', rfl, ht', -, hvalue'⟩
      · exact absurd (List.perm_nil.mp perm) hne
      · refine .some (sameContent_of_values ht ht' fun k => Option.ext fun v => ?_)
        rw [hvalue, hvalue']
        simp only [perm.mem_iff]

/-- Three trees that share definitions above their own. -/
theorem mergeAll_perm_services :
    let ssh := build default .warn [
      .insertValue (.ofSegments [.fixed "service", .fixed "ssh", .fixed "port"]) "22"]
    let ntp := build default .reject [
      .insertValues (.ofSegments [.fixed "service", .fixed "ntp", .fixed "server"]) ["a", "b"]]
    let bare := build default .warn [.ensure (.ofSegments [.fixed "service", .fixed "ssh"])]
    OrderFree [ssh, ntp, bare] [bare, ntp, ssh] := by
  intro ssh ntp bare
  refine mergeAll_perm ?_ (by decide +kernel) (List.reverse_perm [bare, ntp, ssh])
  simp only [List.forall_mem_cons]
  exact ⟨⟨_, _, _, rfl⟩, ⟨_, _, _, rfl⟩, ⟨_, _, _, rfl⟩, by simp⟩

end Definitions

end RouterConfig
