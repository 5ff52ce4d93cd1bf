/-
RouterConfig.Proofs.Merge.Union — where the keys of two trees mean the same
paths, a merge is a union.

`merge_spec_build`: of two trees made by calls, `MergeSpec` holds. The merge
succeeds exactly when no key that both have leads to two values; what it
gives unites the two trees (`Unites`); and an error names the first key of
the second tree that leads to another value (`FirstMismatch`).

## How the proof goes

`Merge.Course` says of any two trees which definitions a merge visits and
which branches it adopts. Where the trees are coherent, whatever both have
they have all the way up (`Coherent.closed`), so

* the merge visits every key that both have (`Closed.sharedAll_eq`);
* the branches that it adopts hold every key that only the source has, and
  begin right below a key of both (`Closed.walkAll_missingAll`,
  `Closed.missingAll_eq`).

`Adopts.unites` reads the union off that, place by place. New children
stand behind those that were there, in the order of the source
(`Adopts.childFaces_united`).

## Side conditions

`Coherent`: definitions of the two trees that have one key have the same
steps. Steps may hold a slash, so this is not for free, and without it a
merge that succeeds can lose a value (`Merge.Override`). Grammars and
policies of the two trees may differ. A comment is not compared: where both
trees have a definition, that of the first stays as it is.
-/
import RouterConfig.Proofs.Definition.Consistency
import RouterConfig.Proofs.Merge.Course

namespace RouterConfig

namespace Definitions

open Definition

/-! ## 1. What both trees have -/

/-- Definitions of the two trees that have one key have the same steps. -/
def Coherent (t s : Definitions) : Prop :=
  ∀ x ∈ t.walk, ∀ e ∈ s.walk, x.key = e.key → x.fullPath.literal = e.fullPath.literal

instance (t s : Definitions) : Decidable (Coherent t s) :=
  inferInstanceAs (Decidable (∀ x ∈ t.walk, ∀ e ∈ s.walk, x.key = e.key →
    x.fullPath.literal = e.fullPath.literal))

theorem Coherent.symm {t s : Definitions} (h : Coherent t s) : Coherent s t :=
  fun x hx e he hkey => (h e he x hx hkey.symm).symm

/-- Where the tree has the key of one of the definitions, it has the keys of those above it. -/
def Closed (t : Definitions) (ds : List Definition) : Prop :=
  ∀ a ∈ walkAll ds, ∀ e ∈ a.walk, t.contains e.key = true → t.contains a.key = true

/-- It is enough that the tree has the key of a definition when it has that of a child. -/
theorem closed_of_step {t : Definitions} {ds : List Definition}
    (hstep : ∀ p ∈ walkAll ds, ∀ c ∈ p.children, t.contains c.key = true →
      t.contains p.key = true) : Closed t ds := by
  -- what the tree has of a forest is below a root that it has
  have htop : ∀ cs : List Definition, (∀ p ∈ walkAll cs, p ∈ walkAll ds) →
      ∀ e ∈ walkAll cs, t.contains e.key = true → ∃ c ∈ cs, t.contains c.key = true := by
    intro cs
    induction cs using forest_induction with
    | nil =>
      intro _ e he
      simp at he
    | cons c rest ihc ihr =>
      intro hsub e he hcontains
      rw [walkAll_cons] at he
      have hc : c ∈ walkAll ds := hsub c (by simp [walkAll_cons])
      rcases List.mem_cons.mp he with rfl | he
      · exact ⟨e, List.mem_cons_self, hcontains⟩
      · rcases List.mem_append.mp he with he | he
        · obtain ⟨c', hc', hcontains'⟩ := ihc
            (fun p hp => hsub p (by simp [walkAll_cons, hp])) e he hcontains
          exact ⟨c, List.mem_cons_self, hstep c hc c' hc' hcontains'⟩
        · obtain ⟨c', hc', hcontains'⟩ := ihr
            (fun p hp => hsub p (by simp [walkAll_cons, hp])) e he hcontains
          exact ⟨c', List.mem_cons_of_mem _ hc', hcontains'⟩
  intro a ha e he hcontains
  rw [walk_eq] at he
  rcases List.mem_cons.mp he with rfl | he
  · exact hcontains
  · have hsub : ∀ p ∈ walkAll a.children, p ∈ walkAll ds := by
      intro p hp
      refine mem_walkAll_trans ha ?_
      rw [walk_eq]
      exact List.mem_cons_of_mem _ hp
    obtain ⟨c, hc, hcontains'⟩ := htop a.children hsub e he hcontains
    exact hstep a ha c hc hcontains'

/-- What coherent trees both have, they have all the way up. -/
theorem Coherent.closed {t s : Definitions} (ht : Indexed t) (hs : Indexed s)
    (h : Coherent t s) : Closed t s.roots := by
  refine closed_of_step ?_
  intro p hp c hc hcontains
  obtain ⟨hroot, hkey, -⟩ := hs.child_of_mem hp hc
  rw [ht.contains_eq] at hcontains
  obtain ⟨x, hx⟩ := Option.isSome_iff_exists.mp hcontains
  have hxkey := ht.key_of_get? hx
  have hxmem : x ∈ t.walk := ht.mem_walk.mpr (by rwa [hxkey])
  have hliteral := h x hxmem c ((children_sublist_walkAll hp).subset hc) hxkey
  rw [fullPath_literal, fullPath_literal] at hliteral
  have hparent : x.parent.literal = c.parent.literal := (List.append_inj' hliteral rfl).1
  have hxroot : x.parent.isRoot = false := by
    simp only [ConfigPath.isRoot, ConfigPath.literal, List.isEmpty_eq_false_iff] at hroot hparent ⊢
    intro hnil
    rw [hnil] at hparent
    exact hroot (List.map_eq_nil_iff.mp hparent.symm)
  have := ht.contains_parent hxmem hxroot
  rwa [ConfigPath.key, hparent, ← ConfigPath.key, hkey] at this

/-! ## 2. What is visited -/

namespace Closed

variable {t : Definitions} {ds rest : List Definition} {d : Definition}

theorem below (h : Closed t (d :: rest)) : Closed t d.children := by
  intro a ha
  exact h a (by simp [walkAll_cons, ha])

theorem next (h : Closed t (d :: rest)) : Closed t rest := by
  intro a ha
  exact h a (by simp [walkAll_cons, ha])

/-- Below what the tree lacks it has nothing. -/
theorem lacks (h : Closed t (d :: rest)) (hc : t.contains d.key = false) :
    ∀ e ∈ walkAll d.children, t.contains e.key = false := by
  intro e he
  cases he' : t.contains e.key with
  | false => rfl
  | true =>
    have := h d (by simp [walkAll_cons]) e (by simp [walk_eq, he]) he'
    rw [hc] at this
    cases this

/-- Every definition whose key the tree has is visited as shared. -/
theorem sharedAll_eq (h : Closed t ds) :
    sharedAll t ds = (walkAll ds).filter fun e => t.contains e.key := by
  induction ds using forest_induction with
  | nil => rfl
  | cons d rest ihd ihr =>
    rw [walkAll_cons]
    cases hc : t.contains d.key with
    | false =>
      have hnone : (walkAll d.children).filter (fun e => t.contains e.key) = [] :=
        List.filter_eq_nil_iff.mpr fun e he => by simp [h.lacks hc e he]
      rw [sharedAll_cons_of_missing rest hc, ihr h.next, List.filter_cons_of_neg (by simp [hc]),
        List.filter_append, hnone, List.nil_append]
    | true =>
      rw [sharedAll_cons_of_shared rest hc, ihd h.below, ihr h.next,
        List.filter_cons_of_pos (by simpa using hc), List.filter_append]

/-- The missing branches hold every definition whose key the tree lacks. -/
theorem walkAll_missingAll (h : Closed t ds) :
    walkAll (missingAll t ds) = (walkAll ds).filter fun e => !t.contains e.key := by
  induction ds using forest_induction with
  | nil => rfl
  | cons d rest ihd ihr =>
    rw [walkAll_cons]
    cases hc : t.contains d.key with
    | false =>
      have hall : (walkAll d.children).filter (fun e => !t.contains e.key) = walkAll d.children :=
        List.filter_eq_self.mpr fun e he => by simp [h.lacks hc e he]
      rw [missingAll_cons_of_missing rest hc, walkAll_cons, ihr h.next,
        List.filter_cons_of_pos (by simp [hc]), List.filter_append, hall]
    | true =>
      rw [missingAll_cons_of_shared rest hc, walkAll_append, ihd h.below, ihr h.next,
        List.filter_cons_of_neg (by simp [hc]), List.filter_append]

/-- The missing branches begin where the tree lacks a key and has the one above it. -/
theorem missingAll_eq (h : Closed t ds) (hgrounded : Grounded ds)
    (hparents : ∀ d ∈ ds, (d.parent.isRoot || t.contains d.parent.key) = true) :
    missingAll t ds = (walkAll ds).filter fun e =>
      !t.contains e.key && (e.parent.isRoot || t.contains e.parent.key) := by
  induction ds using forest_induction with
  | nil => rfl
  | cons d rest ihd ihr =>
    have hbelow : Grounded d.children := fun p hp => hgrounded p (by simp [walkAll_cons, hp])
    have hnext : Grounded rest := fun p hp => hgrounded p (by simp [walkAll_cons, hp])
    have hd := hgrounded d (by simp [walkAll_cons])
    have hrest := ihr h.next hnext fun e he => hparents e (List.mem_cons_of_mem _ he)
    rw [walkAll_cons]
    cases hc : t.contains d.key with
    | false =>
      have hnone : (walkAll d.children).filter (fun e =>
          !t.contains e.key && (e.parent.isRoot || t.contains e.parent.key)) = [] := by
        refine List.filter_eq_nil_iff.mpr ?_
        intro e he
        rcases mem_or_child_of_mem_walkAll he with hmem | ⟨p, hp, hmem⟩
        · simp [(hd e hmem).1, (hd e hmem).2.1, hc]
        · have hp' := hbelow p hp e hmem
          simp [hp'.1, hp'.2.1, h.lacks hc p hp]
      rw [missingAll_cons_of_missing rest hc, hrest,
        List.filter_cons_of_pos (by simp [hc, hparents d List.mem_cons_self]),
        List.filter_append, hnone, List.nil_append]
    | true =>
      have hchildren := ihd h.below hbelow fun e he => by
        rw [(hd e he).2.1, hc, Bool.or_true]
      rw [missingAll_cons_of_shared rest hc, hchildren, hrest,
        List.filter_cons_of_neg (by simp [hc]), List.filter_append]

end Closed

/-! ## 3. The union -/

theorem Indexed.stands_nil_iff {t : Definitions} (ht : Indexed t) {path : ConfigPath} :
    t.Stands path [] ↔ path.isRoot = true := by
  cases hroot : path.isRoot with
  | true => simp [Stands, hroot]
  | false =>
    have : ¬ t.Stands path [] := fun hstands => hstands.ne_nil ht hroot rfl
    simp [this]

/-- The place of a key is that of the paths with this key and no other. -/
theorem Indexed.stands_iff {t : Definitions} (ht : Indexed t) {k : String} {l : Location}
    (hk : t.index.get? k = some l) {path : ConfigPath} :
    t.Stands path l ↔ path.isRoot = false ∧ path.key = k := by
  obtain ⟨x, hx, hxkey⟩ := ht.at?_of_index hk
  constructor
  · intro hs
    have hroot := hs.isRoot_eq_false (Definition.ne_nil_of_at? hx)
    obtain ⟨d, hd, hdkey⟩ := ht.at?_of_index (hs.index hroot)
    obtain rfl := Option.some.inj (hx.symm.trans hd)
    exact ⟨hroot, hdkey.symm.trans hxkey⟩
  · rintro ⟨hroot, rfl⟩
    exact stands_of_index hroot hk

/-- The tree `r` unites `t` with what only `s` has. -/
structure Unites (t s r : Definitions) : Prop where
  paths : ∀ k, k ∈ r.paths ↔ k ∈ t.paths ∨ k ∈ s.paths
  /-- What the first tree has is kept, but for what is below it. -/
  kept : ∀ k x, t.get? k = some x →
    (∃ y, r.get? k = some y ∧ y.bare = x.bare) ∧ r.binding? k = t.binding? k
  /-- What only the second tree has is taken from there as it is. -/
  added : ∀ k e, t.get? k = none → s.get? k = some e →
    r.get? k = some e ∧ r.binding? k = s.binding? k
  /-- Below what both have stand the children from the first tree and then those that only the
  second has, each in its order. -/
  children : ∀ k x e y, t.get? k = some x → s.get? k = some e → r.get? k = some y →
    y.children.map bare = (x.children ++ e.children.filter fun c => !t.contains c.key).map bare
  roots : r.roots.map bare = (t.roots ++ s.roots.filter fun c => !t.contains c.key).map bare

section Union

variable {t s r : Definitions} (ht : Indexed t) (hs : Indexed s) (hclosed : Closed t s.roots)
include ht hs hclosed

/-- The missing branches that belong below one place of the tree are the new children there. -/
theorem filter_stands_missingAll (l : Location) :
    (missingAll t s.roots).filter (fun b => decide (t.Stands b.parent l))
      = (s.walk.filter fun c => decide (t.Stands c.parent l)).filter
          fun c => !t.contains c.key := by
  have hroots : ∀ d ∈ s.roots, (d.parent.isRoot || t.contains d.parent.key) = true := by
    intro d hd
    rw [(hs.mem_roots (mem_walkAll_of_mem hd)).mp hd, Bool.true_or]
  rw [hclosed.missingAll_eq (hs.fits t).grounded hroots, List.filter_filter, List.filter_filter,
    ← walk]
  refine List.filter_congr ?_
  intro c _
  by_cases hstands : t.Stands c.parent l
  · have hthere : (c.parent.isRoot || t.contains c.parent.key) = true := by
      cases hroot : c.parent.isRoot with
      | true => rfl
      | false =>
        obtain ⟨f, hf, hkey⟩ := hstands.face? ht hroot
        rw [Bool.false_or, contains, Dictionary.contains, ht.index_iff.mpr ⟨f, hf, hkey⟩]
        rfl
    simp [hstands, hthere]
  · simp [hstands]

omit ht hs in
theorem mem_missing {e : Definition} : e ∈ walkAll (missingAll t s.roots) ↔
    e ∈ s.walk ∧ t.contains e.key = false := by
  rw [hclosed.walkAll_missingAll, List.mem_filter, Bool.not_eq_true', ← walk]

omit ht hs in
/-- No key of the tree is one of a missing branch. -/
theorem not_mem_missing {k : String} (hk : t.contains k = true) :
    k ∉ (walkAll (missingAll t s.roots)).map (·.key) := by
  intro hmem
  obtain ⟨e, he, rfl⟩ := List.mem_map.mp hmem
  rw [((mem_missing hclosed).mp he).2] at hk
  cases hk

omit ht in
theorem Adopts.mem_paths (h : Adopts t (missingAll t s.roots) r) (k : String) :
    k ∈ r.paths ↔ k ∈ t.paths ∨ k ∈ s.paths := by
  rw [hs.mem_paths, mem_paths_iff_contains, mem_paths_iff_contains]
  by_cases hk : k ∈ (walkAll (missingAll t s.roots)).map (·.key)
  · obtain ⟨e, he, rfl⟩ := List.mem_map.mp hk
    obtain ⟨l, hindex, -⟩ := h.added e he
    have hthere : r.contains e.key = true := by
      rw [contains, Dictionary.contains, hindex]
      rfl
    exact ⟨fun _ => .inr (List.mem_map_of_mem ((mem_missing hclosed).mp he).1), fun _ => hthere⟩
  · have hsame : r.contains k = t.contains k := by
      rw [contains, Dictionary.contains, h.index_kept k hk]
      rfl
    rw [hsame]
    refine ⟨.inl, ?_⟩
    rintro (hc | hmem)
    · exact hc
    · obtain ⟨e, he, rfl⟩ := List.mem_map.mp hmem
      cases hc : t.contains e.key with
      | true => rfl
      | false => exact absurd (List.mem_map_of_mem ((mem_missing hclosed).mpr ⟨he, hc⟩)) hk

/-- The tree with the missing branches agrees with its index. -/
theorem Adopts.indexed_of_closed (h : Adopts t (missingAll t s.roots) r) : Indexed r := by
  refine h.indexed ht ?_ ?_
  · intro e he
    have hlacks := ((mem_missing hclosed).mp he).2
    rw [ht.contains_eq, Option.isSome_eq_false_iff, Option.isNone_iff_eq_none] at hlacks
    exact ht.get?_eq_none.mp hlacks
  · intro p hp
    exact (hs.fits t).grounded p ((walkAll_missingAll_sublist t s.roots).subset hp)

/-- What only the second tree has is there as it was. -/
theorem Adopts.get?_added (h : Adopts t (missingAll t s.roots) r) {k : String} {e : Definition}
    (hnone : t.get? k = none) (he : s.get? k = some e) :
    r.get? k = some e ∧ r.binding? k = s.binding? k := by
  obtain rfl := hs.key_of_get? he
  have hmem := (mem_missing hclosed).mpr ⟨hs.mem_walk.mpr he, ht.contains_eq_false hnone⟩
  obtain ⟨l, hindex, hat, -⟩ := h.added e hmem
  refine ⟨by rw [get?, hindex]; exact hat, ?_⟩
  have hnobinding : t.binding? e.key = none := by
    rw [ht.binding, ht.get?_eq_none.mp hnone]
    rfl
  obtain ⟨l', hindex', hat', -⟩ := hs.get?_eq_some.mp he
  rw [h.binding_added e hmem, hnobinding, Option.or_none, hs.binding, hindex']
  simp [face?_of_at? hat']

/-- Below a place of the tree the missing children come last. -/
theorem Adopts.childFaces_united (h : Adopts t (missingAll t s.roots) r) {l : Location}
    {fs ds : List Definition} (hfs : t.childFaces l = some fs)
    (hplace : s.walk.filter (fun c => decide (t.Stands c.parent l)) = ds) :
    r.childFaces l = some (fs ++ (ds.filter fun c => !t.contains c.key).map bare) := by
  rw [h.children l fs hfs, filter_stands_missingAll ht hs hclosed, hplace]

theorem Adopts.unites (h : Adopts t (missingAll t s.roots) r) : Unites t s r := by
  constructor
  case paths => exact h.mem_paths hs hclosed
  case kept =>
    intro k x hx
    have hk := not_mem_missing hclosed (ht.contains_of_get? hx)
    exact ⟨h.get?_kept ht hk hx, h.binding_kept k hk⟩
  case added =>
    intro k e hnone he
    exact h.get?_added ht hs hclosed hnone he
  case children =>
    intro k x e y hx he hy
    have hk := not_mem_missing hclosed (ht.contains_of_get? hx)
    obtain ⟨l, hindex, hat, -⟩ := ht.get?_eq_some.mp hx
    have hy' : r.at? l = some y := by
      rw [get?, h.index_kept k hk, hindex] at hy
      exact hy
    -- the place of the key is that of no other path
    have hplace : s.walk.filter (fun c => decide (t.Stands c.parent l)) = e.children := by
      rw [← hs.filter_children (hs.mem_walk.mpr (by rwa [hs.key_of_get? he]))]
      refine List.filter_congr ?_
      intro c _
      rw [hs.key_of_get? he, Bool.eq_iff_iff, decide_eq_true_iff, ht.stands_iff hindex]
      simp
    have hfaces := h.childFaces_united ht hs hclosed (childFaces_of_at? hat) hplace
    rw [childFaces_of_at? hy'] at hfaces
    rw [List.map_append]
    exact Option.some.inj hfaces
  case roots =>
    have hplace : s.walk.filter (fun c => decide (t.Stands c.parent [])) = s.roots := by
      rw [← hs.filter_roots]
      refine List.filter_congr ?_
      intro c _
      rw [Bool.eq_iff_iff, decide_eq_true_iff, ht.stands_nil_iff]
    have hroots : t.childFaces [] = some (t.roots.map bare) := rfl
    rw [List.map_append]
    exact Option.some.inj (h.childFaces_united ht hs hclosed hroots hplace)

end Union

/-! ## 4. The specification -/

/-- The error names the first definition of the second tree, in the order of the walk, whose key
leads to another value in the first. -/
def FirstMismatch (t s : Definitions) (cause : MergeError) : Prop :=
  ∃ before e after x, s.walk = before ++ e :: after ∧ (∀ b ∈ before, t.Agrees b) ∧
    t.get? e.key = some x ∧ x.value ≠ e.value ∧
    (x.value ≠ .empty → e.value ≠ .empty → cause = .valueConflict e.key x.value e.value) ∧
    (x.value = .empty ∨ e.value = .empty → cause = .shapeConflict e.key)

/-- When a merge succeeds, what it gives, and which error it gives otherwise. -/
structure MergeSpec (t s : Definitions) : Prop where
  ok_iff : (∃ r, merge t s = .ok r) ↔
    ∀ k x e, t.get? k = some x → s.get? k = some e → x.value = e.value
  ok : ∀ r, merge t s = .ok r → Unites t s r
  error : ∀ cause, merge t s = .error cause → FirstMismatch t s cause

/-- A definition of both trees that is the first to differ among the shared ones is the first of
the whole walk. -/
theorem firstMismatch_of_shared {t s : Definitions} (ht : Indexed t) (hclosed : Closed t s.roots)
    {before after : List Definition} {e x : Definition}
    (first : sharedAll t s.roots = before ++ e :: after) (agree : ∀ b ∈ before, t.Agrees b)
    (there : t.get? e.key = some x) (differ : x.value ≠ e.value) :
    FirstMismatch t s (conflict e.key x.value e.value) := by
  rw [hclosed.sharedAll_eq, ← walk] at first
  obtain ⟨pre, suf, hwalk, hpre, hsuf⟩ := List.filter_eq_append_iff.mp first
  obtain ⟨skipped, suf', rfl, hskipped, -, -⟩ := List.filter_eq_cons_iff.mp hsuf
  refine ⟨pre ++ skipped, e, suf', x, by simp [hwalk], ?_, there, differ, ?_, ?_⟩
  · intro b hb y hy
    have hb' := ht.contains_of_get? hy
    rcases List.mem_append.mp hb with hb | hb
    · refine agree b ?_ y hy
      rw [← hpre]
      exact List.mem_filter.mpr ⟨hb, hb'⟩
    · exact absurd hb' (hskipped b hb)
  · intro hx he
    cases hxv : x.value with
    | empty => exact absurd hxv hx
    | single _ => cases hev : e.value <;> simp_all [conflict, Value.isEmpty]
    | multi _ => cases hev : e.value <;> simp_all [conflict, Value.isEmpty]
  · rintro (h | h) <;> simp [conflict, h, Value.isEmpty]

theorem Coherent.merge_spec {t s : Definitions} (ht : Indexed t) (hs : Indexed s)
    (h : Coherent t s) : MergeSpec t s := by
  have hclosed := h.closed ht hs
  have herror : ∀ cause, merge t s = .error cause → FirstMismatch t s cause := by
    intro cause hcause
    obtain ⟨before, e, after, x, first, agree, there, differ, rfl⟩ := merge_error ht hs hcause
    exact firstMismatch_of_shared ht hclosed first agree there differ
  refine ⟨⟨?_, ?_⟩, ?_, herror⟩
  · rintro ⟨r, hr⟩ k x e hx he
    obtain ⟨agree, -⟩ := merge_ok ht hs hr
    have hkey := hs.key_of_get? he
    subst hkey
    refine agree e ?_ x hx
    rw [hclosed.sharedAll_eq, List.mem_filter, ← walk]
    exact ⟨hs.mem_walk.mpr he, ht.contains_of_get? hx⟩
  · intro hsame
    cases hr : merge t s with
    | ok r => exact ⟨r, rfl⟩
    | error cause =>
      obtain ⟨before, e, after, x, hwalk, -, there, differ, -⟩ := herror cause hr
      have he : s.get? e.key = some e := hs.mem_walk.mp (by simp [hwalk])
      exact absurd (hsame e.key x e there he) differ
  · intro r hr
    exact (merge_ok ht hs hr).2.unites ht hs hclosed

/-- **Where the keys of two trees made by calls mean the same paths, their merge succeeds exactly
when no key that both have leads to two values; it is then the union of the two, and otherwise it
names the first such key.** -/
theorem merge_spec_build (schema₁ schema₂ : SchemaNode) (policy₁ policy₂ : DuplicatePolicy)
    (calls₁ calls₂ : List Call)
    (h : Coherent (build schema₁ policy₁ calls₁) (build schema₂ policy₂ calls₂)) :
    MergeSpec (build schema₁ policy₁ calls₁) (build schema₂ policy₂ calls₂) :=
  h.merge_spec (indexed_build schema₁ policy₁ calls₁) (indexed_build schema₂ policy₂ calls₂)

/-- Two trees of port groups, which share a group and the definitions above it. -/
theorem merge_spec_port_groups :
    let web := Definitions.build default .reject [
      .insertValues (.ofSegments [.fixed "port-group", .value "WEB", .fixed "port"]) ["80", "443"],
      .setComment (.ofSegments [.fixed "port-group", .value "WEB"]) "browsing"]
    let mail := Definitions.build default .warn [
      .insertValue (.ofSegments [.fixed "port-group", .value "MAIL", .fixed "port"]) "25",
      .insertValues (.ofSegments [.fixed "port-group", .value "WEB", .fixed "port"]) ["80", "443"]]
    Coherent web mail ∧ MergeSpec web mail :=
  ⟨by decide +kernel, merge_spec_build _ _ _ _ _ _ (by decide +kernel)⟩

end Definitions

end RouterConfig
