/-
RouterConfig.Proofs.Definition.Walk — the walk over a tree and the places
that it passes.

A walk lists what stands at the places of a tree, each place once
(`mem_walkAll`, `location_unique`). The registrations of a tree are its
walk with the places beside it.
-/
import Mathlib.Data.List.Nodup
import RouterConfig.Proofs.Definition.Location

namespace RouterConfig

namespace Definition

/-! ## 1. Induction over trees -/

mutual

/-- What holds of no definitions, and of definitions when it holds of the children of the first
and of the others, holds of all definitions. -/
theorem forest_induction {motive : List Definition → Prop} (nil : motive [])
    (cons : ∀ d rest, motive d.children → motive rest → motive (d :: rest)) :
    (ds : List Definition) → motive ds
  | [] => nil
  | d :: rest => cons d rest (children_induction nil cons d) (forest_induction nil cons rest)

theorem children_induction {motive : List Definition → Prop} (nil : motive [])
    (cons : ∀ d rest, motive d.children → motive rest → motive (d :: rest)) :
    (d : Definition) → motive d.children
  | ⟨_, _, _, _, _, _, children⟩ => forest_induction nil cons children

end

/-! ## 2. Walks -/

theorem walk_eq (d : Definition) : d.walk = d :: walkAll d.children := by
  cases d
  rfl

@[simp] theorem walkAll_nil : walkAll [] = [] := rfl

theorem walkAll_cons (d : Definition) (rest : List Definition) :
    walkAll (d :: rest) = d :: (walkAll d.children ++ walkAll rest) := by
  rw [walkAll, walk_eq, List.cons_append]

theorem walkAll_append (ds es : List Definition) :
    walkAll (ds ++ es) = walkAll ds ++ walkAll es := by
  induction ds with
  | nil => rfl
  | cons d rest ih => simp [walkAll_cons, ih]

theorem walkAll_singleton (d : Definition) : walkAll [d] = d.walk := by
  simp [walkAll]

theorem mem_walk_self (d : Definition) : d ∈ d.walk := by
  simp [walk_eq]

theorem mem_walkAll_of_mem {d : Definition} {ds : List Definition} (h : d ∈ ds) :
    d ∈ walkAll ds := by
  induction ds with
  | nil => simp at h
  | cons c rest ih =>
    rw [walkAll_cons]
    rcases List.mem_cons.mp h with rfl | h
    · exact List.mem_cons_self
    · exact List.mem_cons_of_mem _ (List.mem_append_right _ (ih h))

/-- What is below one of several definitions is below them all. -/
theorem mem_walkAll_trans {d e : Definition} {ds : List Definition} (hd : d ∈ walkAll ds)
    (he : e ∈ d.walk) : e ∈ walkAll ds := by
  induction ds using forest_induction with
  | nil => simp at hd
  | cons c rest ihc ihr =>
    rw [walkAll_cons] at hd ⊢
    rcases List.mem_cons.mp hd with rfl | hd
    · rw [walk_eq] at he
      rcases List.mem_cons.mp he with rfl | he
      · exact List.mem_cons_self
      · exact List.mem_cons_of_mem _ (List.mem_append_left _ he)
    · rcases List.mem_append.mp hd with hd | hd
      · exact List.mem_cons_of_mem _ (List.mem_append_left _ (ihc hd))
      · exact List.mem_cons_of_mem _ (List.mem_append_right _ (ihr hd))

/-- The walk passes what stands at the places of the tree. -/
theorem mem_walkAll {e : Definition} {ds : List Definition} :
    e ∈ walkAll ds ↔ ∃ l, at? ds l = some e := by
  constructor
  · intro h
    induction ds using forest_induction with
    | nil => simp at h
    | cons d rest ihd ihr =>
      rw [walkAll_cons] at h
      rcases List.mem_cons.mp h with rfl | h
      · exact ⟨[0], rfl⟩
      · rcases List.mem_append.mp h with h | h
        · obtain ⟨l, hl⟩ := ihd h
          refine ⟨0 :: l, ?_⟩
          rw [at?_cons _ _ (by rintro rfl; cases hl)]
          simpa using hl
        · obtain ⟨l, hl⟩ := ihr h
          cases l with
          | nil => cases hl
          | cons i more => exact ⟨(i + 1) :: more, by cases more <;> simpa [at?] using hl⟩
  · rintro ⟨l, h⟩
    induction l generalizing ds with
    | nil => cases h
    | cons i rest ih =>
      cases rest with
      | nil => exact mem_walkAll_of_mem (List.mem_of_getElem? h)
      | cons j more =>
        rw [at?_cons _ _ (by simp)] at h
        obtain ⟨d, hd, h⟩ := Option.bind_eq_some_iff.mp h
        have hmem := mem_walkAll_of_mem (List.mem_of_getElem? hd)
        refine mem_walkAll_trans hmem ?_
        rw [walk_eq]
        exact List.mem_cons_of_mem _ (ih h)

/-- What a walk meets is one of the first or stands below another that it meets. -/
theorem mem_or_child_of_mem_walkAll {e : Definition} {ds : List Definition} (h : e ∈ walkAll ds) :
    e ∈ ds ∨ ∃ p ∈ walkAll ds, e ∈ p.children := by
  induction ds using forest_induction with
  | nil => simp at h
  | cons d rest ihd ihr =>
    rw [walkAll_cons] at h ⊢
    rcases List.mem_cons.mp h with rfl | h
    · exact .inl List.mem_cons_self
    · rcases List.mem_append.mp h with h | h
      · rcases ihd h with hmem | ⟨p, hp, hmem⟩
        · exact .inr ⟨d, List.mem_cons_self, hmem⟩
        · exact .inr ⟨p, List.mem_cons_of_mem _ (List.mem_append_left _ hp), hmem⟩
      · rcases ihr h with hmem | ⟨p, hp, hmem⟩
        · exact .inl (List.mem_cons_of_mem _ hmem)
        · exact .inr ⟨p, List.mem_cons_of_mem _ (List.mem_append_right _ hp), hmem⟩

/-- A walk meets siblings in their order. -/
theorem sublist_walkAll (ds : List Definition) : ds.Sublist (walkAll ds) := by
  induction ds with
  | nil => exact List.Sublist.refl _
  | cons d rest ih =>
    rw [walkAll_cons]
    exact (ih.trans (List.sublist_append_right _ _)).cons_cons d

theorem children_sublist_walkAll {p : Definition} {ds : List Definition} (h : p ∈ walkAll ds) :
    p.children.Sublist (walkAll ds) := by
  induction ds using forest_induction with
  | nil => simp at h
  | cons d rest ihd ihr =>
    rw [walkAll_cons] at h ⊢
    rcases List.mem_cons.mp h with rfl | h
    · exact ((sublist_walkAll _).trans (List.sublist_append_left _ _)).cons _
    · rcases List.mem_append.mp h with h | h
      · exact ((ihd h).trans (List.sublist_append_left _ _)).cons _
      · exact ((ihr h).trans (List.sublist_append_right _ _)).cons _

/-- A part of a list without repetitions is what a test that singles it out keeps. -/
theorem filter_eq_of_sublist {part whole : List Definition} {test : Definition → Bool}
    (hsub : part.Sublist whole) (hnodup : whole.Nodup)
    (htest : ∀ d ∈ whole, test d = true ↔ d ∈ part) : whole.filter test = part := by
  induction hsub with
  | slnil => rfl
  | @cons part whole a hsub ih =>
    rw [List.nodup_cons] at hnodup
    have ha : ¬ test a = true := by
      intro h
      exact hnodup.1 (hsub.subset ((htest a List.mem_cons_self).mp h))
    rw [List.filter_cons_of_neg ha]
    exact ih hnodup.2 fun d hd => htest d (List.mem_cons_of_mem _ hd)
  | @cons_cons part whole a hsub ih =>
    rw [List.nodup_cons] at hnodup
    rw [List.filter_cons_of_pos ((htest a List.mem_cons_self).mpr List.mem_cons_self)]
    refine congrArg _ (ih hnodup.2 ?_)
    intro d hd
    have hne : d ≠ a := by
      rintro rfl
      exact hnodup.1 hd
    rw [htest d (List.mem_cons_of_mem _ hd), List.mem_cons, or_iff_right hne]

end Definition

/-! ## 3. Registrations -/

namespace Definitions

open Definition

theorem registrations_eq (loc : Location) (d : Definition) :
    registrations loc d = (loc, d.key, d.node) :: registrationsBelow loc 0 d.children := by
  cases d
  rfl

theorem registrationsBelow_cons (loc : Location) (i : Nat) (d : Definition)
    (rest : List Definition) :
    registrationsBelow loc i (d :: rest)
      = (loc ++ [i], d.key, d.node) :: (registrationsBelow (loc ++ [i]) 0 d.children
          ++ registrationsBelow loc (i + 1) rest) := by
  rw [registrationsBelow, registrations_eq, List.cons_append]

/-- Registrations name the keys in the order of the walk. -/
theorem map_key_registrationsBelow (loc : Location) (i : Nat) (ds : List Definition) :
    (registrationsBelow loc i ds).map (·.2.1) = (walkAll ds).map (·.key) := by
  induction ds using forest_induction generalizing loc i with
  | nil => rfl
  | cons d rest ihd ihr => simp [registrationsBelow_cons, walkAll_cons, ihd, ihr]

/-- Registrations name what stands at the places, with the places. -/
theorem mem_registrationsBelow {loc : Location} {i : Nat} {ds : List Definition}
    {r : Location × String × Option SchemaNode} :
    r ∈ registrationsBelow loc i ds ↔
      ∃ j m e, Definition.at? ds (j :: m) = some e ∧ r = (loc ++ (i + j) :: m, e.key, e.node) := by
  induction ds using forest_induction generalizing loc i with
  | nil =>
    have hnone : ∀ j m, Definition.at? [] (j :: m) = none := by
      intro j m
      cases m <;> simp [Definition.at?]
    simp [registrationsBelow, hnone]
  | cons d rest ihd ihr =>
    rw [registrationsBelow_cons, List.mem_cons, List.mem_append, ihd, ihr]
    constructor
    · rintro (rfl | ⟨j, m, e, he, rfl⟩ | ⟨j, m, e, he, rfl⟩)
      · exact ⟨0, [], d, rfl, by simp⟩
      · exact ⟨0, j :: m, e, by simpa [Definition.at?] using he, by simp⟩
      · refine ⟨j + 1, m, e, ?_, by simp [Nat.add_comm, Nat.add_left_comm]⟩
        cases m <;> simpa [Definition.at?] using he
    · rintro ⟨j, m, e, he, rfl⟩
      cases j with
      | zero =>
        cases m with
        | nil =>
          obtain rfl : d = e := by simpa [Definition.at?] using he
          exact .inl (by simp)
        | cons k more => exact .inr (.inl ⟨k, more, e, by simpa [Definition.at?] using he, by simp⟩)
      | succ j =>
        refine .inr (.inr ⟨j, m, e, ?_, by simp [Nat.add_comm, Nat.add_left_comm]⟩)
        cases m <;> simpa [Definition.at?] using he

/-- No place is registered twice. -/
theorem nodup_registrationsBelow (loc : Location) (i : Nat) (ds : List Definition) :
    ((registrationsBelow loc i ds).map (·.1)).Nodup := by
  induction ds using forest_induction generalizing loc i with
  | nil => simp [registrationsBelow]
  | cons d rest ihd ihr =>
    rw [registrationsBelow_cons, List.map_cons, List.map_append, List.nodup_cons,
      List.nodup_append]
    refine ⟨?_, ihd _ _, ihr _ _, ?_⟩
    · intro hmem
      rcases List.mem_append.mp hmem with hmem | hmem
      · obtain ⟨r, hr, heq⟩ := List.mem_map.mp hmem
        obtain ⟨j, m, e, -, rfl⟩ := mem_registrationsBelow.mp hr
        simp at heq
      · obtain ⟨r, hr, heq⟩ := List.mem_map.mp hmem
        obtain ⟨j, m, e, -, rfl⟩ := mem_registrationsBelow.mp hr
        simp only [List.append_cancel_left_eq, List.cons.injEq] at heq
        omega
    · intro a ha b hb hab
      obtain ⟨r, hr, rfl⟩ := List.mem_map.mp ha
      obtain ⟨r', hr', rfl⟩ := List.mem_map.mp hb
      obtain ⟨j, m, e, -, rfl⟩ := mem_registrationsBelow.mp hr
      obtain ⟨j', m', e', -, rfl⟩ := mem_registrationsBelow.mp hr'
      simp only [List.append_assoc, List.cons_append, List.nil_append,
        List.append_cancel_left_eq, List.cons.injEq] at hab
      omega

end Definitions

namespace Definition

open Definitions

/-- Where no key occurs twice, two places of one key are one place. -/
theorem location_unique {ds : List Definition} {l l' : Location} {d d' : Definition}
    (hnodup : ((walkAll ds).map (·.key)).Nodup) (h : at? ds l = some d) (h' : at? ds l' = some d')
    (hkey : d.key = d'.key) : l = l' := by
  cases l with
  | nil => cases h
  | cons i m =>
    cases l' with
    | nil => cases h'
    | cons i' m' =>
      have hr : (i :: m, d.key, d.node) ∈ registrationsBelow [] 0 ds :=
        mem_registrationsBelow.mpr ⟨i, m, d, h, by simp⟩
      have hr' : (i' :: m', d'.key, d'.node) ∈ registrationsBelow [] 0 ds :=
        mem_registrationsBelow.mpr ⟨i', m', d', h', by simp⟩
      rw [← map_key_registrationsBelow [] 0] at hnodup
      have := List.inj_on_of_nodup_map hnodup hr hr' hkey
      exact congrArg (·.1) this

/-- Where every place can be told from the key that stands there, no key occurs twice. -/
theorem nodup_keys_of_index {ds : List Definition} (place : String → Option Location)
    (h : ∀ l d, at? ds l = some d → place d.key = some l) :
    ((walkAll ds).map (·.key)).Nodup := by
  rw [← map_key_registrationsBelow [] 0]
  refine List.Nodup.of_map place ?_
  have heq : ((registrationsBelow [] 0 ds).map (·.2.1)).map place
      = ((registrationsBelow [] 0 ds).map (·.1)).map some := by
    rw [List.map_map, List.map_map]
    refine List.map_congr_left ?_
    intro r hr
    obtain ⟨j, m, e, he, rfl⟩ := mem_registrationsBelow.mp hr
    simpa using h _ e he
  rw [heq]
  exact (nodup_registrationsBelow [] 0 ds).map (fun _ _ h => Option.some.inj h)

end Definition

end RouterConfig
