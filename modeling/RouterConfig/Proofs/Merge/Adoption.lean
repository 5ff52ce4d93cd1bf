/-
RouterConfig.Proofs.Merge.Adoption — a tree that has adopted branches of
another.

`Adopts t branches t'` says how `t'` came from `t`: what `t` shows at its
places stays, every branch stands whole at places that were free, and a
key outside the branches leads where it led. Nothing is said of a key of a
branch that `t` had as well: the branch has it then. Where there is no
such key the adopting tree stays indexed (`Adopts.indexed`).
-/
import RouterConfig.Proofs.Merge.Attachment

namespace RouterConfig

/-! ## 1. Branches -/

namespace Definition

/-- The children below are what their parent paths say, and what has children has no value. -/
def Grounded (ds : List Definition) : Prop :=
  ∀ p ∈ walkAll ds, ∀ c ∈ p.children,
    c.parent.isRoot = false ∧ c.parent.key = p.key ∧ p.value = .empty

theorem mem_walkAll_concat {ds : List Definition} {d e : Definition} :
    e ∈ walkAll (ds ++ [d]) ↔ e ∈ walkAll ds ∨ e ∈ d.walk := by
  rw [walkAll_append, walkAll_singleton, List.mem_append]

theorem not_mem_keys_concat {ds : List Definition} {d : Definition} {k : String}
    (h : k ∉ (walkAll (ds ++ [d])).map (·.key)) :
    k ∉ (walkAll ds).map (·.key) ∧ k ∉ d.walk.map (·.key) := by
  rwa [walkAll_append, walkAll_singleton, List.map_append, List.mem_append, not_or] at h

end Definition

namespace Definitions

instance (t : Definitions) (path : ConfigPath) (loc : Location) :
    Decidable (t.Stands path loc) :=
  inferInstanceAs (Decidable (if path.isRoot then loc = [] else t.index.get? path.key = some loc))

/-- The children at a place, up to what is below them. -/
def childFaces (t : Definitions) (l : Location) : Option (List Definition) :=
  (Definition.below? t.roots l).map (·.map Definition.bare)

theorem childFaces_of_at? {t : Definitions} {l : Location} {d : Definition}
    (h : t.at? l = some d) : t.childFaces l = some (d.children.map Definition.bare) := by
  have hne := Definition.ne_nil_of_at? h
  rw [at?] at h
  rw [childFaces, Definition.below?_eq_map_at? _ hne, h]
  rfl

theorem face?_of_childFaces {t : Definitions} {l : Location} {fs : List Definition}
    (h : t.childFaces l = some fs) (i : Nat) : t.face? (l ++ [i]) = fs[i]? := by
  obtain ⟨ds, hds, rfl⟩ := Option.map_eq_some_iff.mp h
  exact Definition.face?_concat hds i

/-! ## 2. Adopting -/

/-- The tree `t'` is `t` with branches adopted, each below the place that its parent path has in
`t`. -/
structure Adopts (t : Definitions) (branches : List Definition) (t' : Definitions) : Prop where
  schema : t'.schema = t.schema
  policy : t'.policy = t.policy
  /-- What stood at a place stands there still. -/
  kept : ∀ l f, t.face? l = some f → t'.face? l = some f
  /-- A key that no branch has leads where it led. -/
  index_kept : ∀ k, k ∉ (Definition.walkAll branches).map (·.key) →
    t'.index.get? k = t.index.get? k
  binding_kept : ∀ k, k ∉ (Definition.walkAll branches).map (·.key) →
    t'.binding? k = t.binding? k
  /-- What a branch holds stands whole at a place that was free, and its key leads there. -/
  added : ∀ e ∈ Definition.walkAll branches, ∃ l,
    t'.index.get? e.key = some l ∧ t'.at? l = some e ∧ t.face? l = none
  binding_added : ∀ e ∈ Definition.walkAll branches,
    t'.binding? e.key = e.node.or (t.binding? e.key)
  /-- There is nothing but what was there and what the branches hold. -/
  only : ∀ l f, t'.face? l = some f → t.face? l = some f ∨
    ∃ e ∈ Definition.walkAll branches, e.bare = f ∧ t'.index.get? e.key = some l ∧
      t'.at? l = some e
  /-- Below an old place stand the old children and then the branches that belong there, in
  order. -/
  children : ∀ l fs, t.childFaces l = some fs → t'.childFaces l
    = some (fs ++ (branches.filter fun b => decide (t.Stands b.parent l)).map Definition.bare)
  /-- Each branch was put below something without a value. -/
  parents : ∀ b ∈ branches, ∃ l, t.Stands b.parent l ∧ t.Open l

theorem Adopts.refl (t : Definitions) : Adopts t [] t where
  schema := rfl
  policy := rfl
  kept _ _ h := h
  index_kept _ _ := rfl
  binding_kept _ _ := rfl
  added e he := by simp at he
  binding_added e he := by simp at he
  only _ _ h := .inl h
  children l fs h := by simpa using h
  parents b hb := by simp at hb

/-! ## 3. One branch more -/

section Adopted

variable {t : Definitions} {loc : Location} {siblings : List Definition} {d : Definition}
  (room : Definition.below? t.roots loc = some siblings)
include room

theorem not_prefix_of_face? {l : Location} {f : Definition} (hf : t.face? l = some f) :
    ¬ (loc ++ [siblings.length]) <+: l := by
  rintro ⟨m, rfl⟩
  rw [List.append_assoc, List.singleton_append, face?_eq_none_of_room room] at hf
  cases hf

theorem childFaces_adopted_self :
    (t.adopted loc siblings.length d).childFaces loc
      = (t.childFaces loc).map (· ++ [d.bare]) := by
  rw [childFaces, roots_adopted, Definition.below?_appendAt, childFaces, room]
  simp

theorem childFaces_adopted_of_ne {l : Location} (hne : l ≠ loc) {fs : List Definition}
    (hfs : t.childFaces l = some fs) :
    (t.adopted loc siblings.length d).childFaces l = some fs := by
  obtain ⟨ds, hds, rfl⟩ := Option.map_eq_some_iff.mp hfs
  -- the place is not at or below that of the new branch, nor are the next places
  have hl : ¬ (loc ++ [siblings.length]) <+: l := by
    cases l with
    | nil => simp
    | cons i rest =>
      rw [Definition.below?_eq_map_at? _ (by simp)] at hds
      obtain ⟨e, he, -⟩ := Option.map_eq_some_iff.mp hds
      exact not_prefix_of_face? room (face?_of_at? he)
  have hnext : ∀ i, ¬ (loc ++ [siblings.length]) <+: l ++ [i] := by
    intro i hp
    rcases List.prefix_concat_iff.mp hp with heq | hp
    · exact hne (List.append_inj' heq rfl).1.symm
    · exact hl hp
  obtain ⟨ds', hds'⟩ : ∃ ds', Definition.below? (t.adopted loc siblings.length d).roots l
      = some ds' := by
    cases l with
    | nil => exact ⟨_, rfl⟩
    | cons i rest =>
      rw [Definition.below?_eq_map_at? _ (by simp)] at hds
      obtain ⟨e, he, -⟩ := Option.map_eq_some_iff.mp hds
      have hface := face?_adopted_old (d := d) room hl
      rw [face?_of_at? (t := t) he] at hface
      obtain ⟨e', he', -⟩ := face?_eq_some.mp hface
      rw [at?] at he'
      rw [Definition.below?_eq_map_at? _ (by simp), he']
      exact ⟨_, rfl⟩
  rw [childFaces, hds']
  exact congrArg some
    (Definition.map_bare_congr hds' hds fun i => face?_adopted_old room (hnext i))

end Adopted

section Next

variable {t t' : Definitions} {branches : List Definition} {d : Definition} {loc : Location}

/-- A path that no branch is about has its place still. -/
theorem Adopts.stands (h : Adopts t branches t') {path : ConfigPath} (hs : t.Stands path loc)
    (hpath : path.isRoot = false → path.key ∉ (Definition.walkAll branches).map (·.key)) :
    t'.Stands path loc := by
  cases hroot : path.isRoot with
  | true =>
    rw [hs.eq_nil hroot]
    exact stands_nil t' hroot
  | false =>
    refine stands_of_index hroot ?_
    rw [h.index_kept _ (hpath hroot)]
    exact hs.index hroot

/-- What had no value to stand in the way of children has none still. -/
theorem Adopts.not_isLeaf (ht : Indexed t) (h : Adopts t branches t') {path : ConfigPath}
    (hs : t.Stands path loc) (hopen : t.Open loc) : (t'.at? loc).any (·.isLeaf) = false := by
  refine not_isLeaf_of_open fun g hg => ?_
  obtain ⟨f, hf, -⟩ := hs.face? ht (hs.isRoot_eq_false (ne_nil_of_face? hg))
  obtain rfl := Option.some.inj (hg.symm.trans (h.kept loc f hf))
  exact hopen _ hf

variable {siblings siblings' : List Definition}

/-- Nothing of the branches so far stands on the way to the next one. -/
theorem Adopts.at?_adopted (h : Adopts t branches t')
    (hsiblings : Definition.below? t.roots loc = some siblings)
    (room : Definition.below? t'.roots loc = some siblings') {e : Definition}
    (he : e ∈ Definition.walkAll branches) {l : Location}
    (hindex : t'.index.get? e.key = some l) (hat : t'.at? l = some e) :
    (t'.adopted loc siblings'.length d).at? l = some e := by
  obtain ⟨l', hindex', -, hnone⟩ := h.added e he
  obtain rfl := Option.some.inj (hindex.symm.trans hindex')
  rw [at?, roots_adopted, Definition.at?_appendAt_of_not_prefix room
    (not_prefix_of_face? room (face?_of_at? hat)), ← at?, hat]
  intro hp
  have hsome := Definition.at?_isSome_of_room (Definition.ne_nil_of_at? hat) hp hsiblings
  obtain ⟨p, hp'⟩ := Option.isSome_iff_exists.mp hsome
  rw [face?_of_at? (t := t) hp'] at hnone
  cases hnone

/-- With a branch whose keys the earlier ones do not have the tree has adopted one more. -/
theorem Adopts.adopted (h : Adopts t branches t')
    (hdistinct : ((Definition.walkAll (branches ++ [d])).map (·.key)).Nodup)
    (hstands : t.Stands d.parent loc) (hopen : t.Open loc)
    (hsiblings : Definition.below? t.roots loc = some siblings)
    (room : Definition.below? t'.roots loc = some siblings') :
    Adopts t (branches ++ [d]) (t'.adopted loc siblings'.length d) := by
  rw [Definition.walkAll_append, Definition.walkAll_singleton, List.map_append,
    List.nodup_append] at hdistinct
  obtain ⟨-, hnodup, hdisjoint⟩ := hdistinct
  have hnot : ∀ e ∈ d.walk, e.key ∉ (Definition.walkAll branches).map (·.key) := by
    intro e he hmem
    exact hdisjoint e.key hmem e.key (List.mem_map_of_mem he) rfl
  have hnot' : ∀ e ∈ Definition.walkAll branches, e.key ∉ d.walk.map (·.key) := by
    intro e he hmem
    exact hdisjoint e.key (List.mem_map_of_mem he) e.key hmem rfl
  constructor
  case schema => exact (schema_adopted _).trans h.schema
  case policy => exact (policy_adopted _).trans h.policy
  case kept =>
    intro l f hf
    have hf' := h.kept l f hf
    rw [face?_adopted_old room (not_prefix_of_face? room hf')]
    exact hf'
  case index_kept =>
    intro k hk
    obtain ⟨hold, hnew⟩ := Definition.not_mem_keys_concat hk
    rw [index_adopted_old _ hnew, h.index_kept k hold]
  case binding_kept =>
    intro k hk
    obtain ⟨hold, hnew⟩ := Definition.not_mem_keys_concat hk
    rw [binding_adopted_old _ hnew, h.binding_kept k hold]
  case added =>
    intro e he
    rcases Definition.mem_walkAll_concat.mp he with he | he
    · obtain ⟨l, hindex, hat, hnone⟩ := h.added e he
      refine ⟨l, ?_, h.at?_adopted hsiblings room he hindex hat, hnone⟩
      rw [index_adopted_old _ (hnot' e he)]
      exact hindex
    · obtain ⟨m, hm⟩ := exists_at?_of_mem_walk he
      refine ⟨loc ++ siblings'.length :: m, index_adopted_new _ hnodup hm, ?_, ?_⟩
      · rw [at?_adopted_new room, hm]
      · cases hf : t.face? (loc ++ siblings'.length :: m) with
        | none => rfl
        | some f =>
          have := h.kept _ f hf
          rw [face?_eq_none_of_room room] at this
          cases this
  case binding_added =>
    intro e he
    rcases Definition.mem_walkAll_concat.mp he with he | he
    · rw [binding_adopted_old _ (hnot' e he), h.binding_added e he]
    · rw [binding_adopted_new _ hnodup he, h.binding_kept e.key (hnot e he)]
  case only =>
    intro l f hf
    by_cases hl : (loc ++ [siblings'.length]) <+: l
    · right
      obtain ⟨m, rfl⟩ := hl
      rw [List.append_assoc, List.singleton_append] at hf ⊢
      obtain ⟨e, he, rfl⟩ := face?_eq_some.mp hf
      have hm := he
      rw [at?_adopted_new room] at hm
      exact ⟨e, Definition.mem_walkAll_concat.mpr (.inr (mem_walk_of_at? hm)), rfl,
        index_adopted_new _ hnodup hm, he⟩
    · rw [face?_adopted_old room hl] at hf
      rcases h.only l f hf with hf | ⟨e, he, hbare, hindex, hat⟩
      · exact .inl hf
      · refine .inr ⟨e, Definition.mem_walkAll_concat.mpr (.inl he), hbare, ?_,
          h.at?_adopted hsiblings room he hindex hat⟩
        rw [index_adopted_old _ (hnot' e he)]
        exact hindex
  case children =>
    intro l fs hfs
    rw [List.filter_append, List.map_append, ← List.append_assoc]
    have hbefore := h.children l fs hfs
    by_cases hl : l = loc
    · subst hl
      rw [childFaces_adopted_self room, hbefore]
      simp [hstands]
    · have hno : ¬ t.Stands d.parent l := fun hs => hl (hs.unique hstands)
      rw [childFaces_adopted_of_ne room hl hbefore]
      simp [hno]
  case parents =>
    intro b hb
    rcases List.mem_append.mp hb with hb | hb
    · exact h.parents b hb
    · obtain rfl := List.mem_singleton.mp hb
      exact ⟨loc, hstands, hopen⟩

/-- A branch whose keys the earlier ones do not have, and whose own key is free, is adopted next. -/
theorem Adopts.attach (ht : Indexed t) (h : Adopts t branches t')
    (hdistinct : ((Definition.walkAll (branches ++ [d])).map (·.key)).Nodup)
    (hfree : t.index.get? d.key = none) (hstands : t.Stands d.parent loc) (hopen : t.Open loc)
    (hparent : d.parent.isRoot = false →
      d.parent.key ∉ (Definition.walkAll branches).map (·.key)) :
    ∃ t'', Definitions.attach d.parent d t' = .ok () t'' ∧ Adopts t (branches ++ [d]) t'' := by
  obtain ⟨siblings, hsiblings⟩ := hstands.room ht
  have hchildren := h.children loc _ (by rw [childFaces, hsiblings]; rfl)
  obtain ⟨siblings', room, -⟩ := Option.map_eq_some_iff.mp hchildren
  have hnew : d.key ∉ (Definition.walkAll branches).map (·.key) := by
    rw [Definition.walkAll_append, Definition.walkAll_singleton, List.map_append,
      List.nodup_append] at hdistinct
    intro hmem
    exact hdistinct.2.2 d.key hmem d.key
      (List.mem_map_of_mem (Definition.mem_walk_self d)) rfl
  have hcontains : t'.contains d.key = false := by
    rw [contains, Dictionary.contains, h.index_kept d.key hnew, hfree]
    rfl
  exact ⟨_, attach_eq_adopted hcontains (h.stands hstands hparent)
      (h.not_isLeaf ht hstands hopen) room,
    h.adopted hdistinct hstands hopen hsiblings room⟩

end Next

/-! ## 4. Adopting only what is missing -/

section Agreement

variable {t t' : Definitions} {branches : List Definition}

/-- A place below an old one shows an old definition or one of the branches that belong there. -/
theorem Adopts.face?_concat (h : Adopts t branches t') {l : Location} {fs : List Definition}
    {i : Nat} {c : Definition} (hfs : t.childFaces l = some fs)
    (hc : t'.face? (l ++ [i]) = some c) :
    t.face? (l ++ [i]) = some c ∨ ∃ b ∈ branches, b.bare = c ∧ t.Stands b.parent l := by
  rw [face?_of_childFaces (h.children l fs hfs)] at hc
  by_cases hi : i < fs.length
  · rw [List.getElem?_append_left hi] at hc
    rw [face?_of_childFaces hfs, hc]
    exact .inl rfl
  · rw [List.getElem?_append_right (by omega)] at hc
    obtain ⟨b, hb, hbc⟩ := List.mem_map.mp (List.mem_of_getElem? hc)
    rw [List.mem_filter, decide_eq_true_iff] at hb
    exact .inr ⟨b, hb.1, hbc, hb.2⟩

/-- The index leads to the place of a key of a branch alone. -/
theorem Adopts.index_added_iff (ht : Indexed t) (h : Adopts t branches t') {e : Definition}
    (he : e ∈ Definition.walkAll branches) (hfresh : t.index.get? e.key = none) {l : Location} :
    t'.index.get? e.key = some l ↔ ∃ f, t'.face? l = some f ∧ f.key = e.key := by
  obtain ⟨l', hindex, hat, -⟩ := h.added e he
  constructor
  · intro hl
    obtain rfl := Option.some.inj (hindex.symm.trans hl)
    exact ⟨e.bare, face?_of_at? hat, rfl⟩
  · rintro ⟨f, hf, hfk⟩
    rcases h.only l f hf with hf | ⟨e', -, rfl, hindex', -⟩
    · have := ht.index_iff.mpr ⟨f, hf, hfk⟩
      rw [hfresh] at this
      cases this
    · rw [← hfk]
      exact hindex'

theorem Adopts.index_kept_iff (ht : Indexed t) (h : Adopts t branches t') {k : String}
    (hk : k ∉ (Definition.walkAll branches).map (·.key)) {l : Location} :
    t'.index.get? k = some l ↔ ∃ f, t'.face? l = some f ∧ f.key = k := by
  rw [h.index_kept k hk, ht.index_iff]
  constructor
  · rintro ⟨f, hf, hfk⟩
    exact ⟨f, h.kept l f hf, hfk⟩
  · rintro ⟨f, hf, rfl⟩
    rcases h.only l f hf with hf | ⟨e', he', rfl, -, -⟩
    · exact ⟨f, hf, rfl⟩
    · exact absurd (List.mem_map_of_mem he') hk

/-- A tree that adopts branches without one of its own keys stays indexed. -/
theorem Adopts.indexed (ht : Indexed t) (h : Adopts t branches t')
    (hfresh : ∀ e ∈ Definition.walkAll branches, t.index.get? e.key = none)
    (hgrounded : Definition.Grounded branches) : Indexed t' := by
  constructor
  case index_iff =>
    intro k l
    by_cases hk : k ∈ (Definition.walkAll branches).map (·.key)
    · obtain ⟨e, he, rfl⟩ := List.mem_map.mp hk
      exact h.index_added_iff ht he (hfresh e he)
    · exact h.index_kept_iff ht hk
  case root =>
    intro i f hf
    rcases h.face?_concat (l := []) rfl hf with hf | ⟨b, -, rfl, hs⟩
    · exact ht.root hf
    · cases hroot : b.parent.isRoot with
      | true => exact hroot
      | false => exact absurd rfl (hs.ne_nil ht hroot)
  case child =>
    intro l i p c hp hc
    rcases h.only l p hp with hp' | ⟨e, he, rfl, -, hat⟩
    · obtain ⟨d, hd, rfl⟩ := face?_eq_some.mp hp'
      rcases h.face?_concat (childFaces_of_at? hd) hc with hc | ⟨b, hb, rfl, hs⟩
      · exact ht.child hp' hc
      · obtain ⟨l', hs', hopen⟩ := h.parents b hb
        obtain rfl := hs.unique hs'
        have hroot := hs.isRoot_eq_false (ne_nil_of_face? hp')
        obtain ⟨f, hf, hfk⟩ := hs.face? ht hroot
        obtain rfl := Option.some.inj (hf.symm.trans hp')
        exact ⟨hroot, hfk.symm, hopen _ hp'⟩
    · obtain ⟨c', hc', rfl⟩ := face?_eq_some.mp hc
      rw [at?, Definition.at?_child hat] at hc'
      exact hgrounded e he c' (List.mem_of_getElem? hc')
  case binding =>
    intro k
    by_cases hk : k ∈ (Definition.walkAll branches).map (·.key)
    · obtain ⟨e, he, rfl⟩ := List.mem_map.mp hk
      obtain ⟨l, hindex, hat, -⟩ := h.added e he
      have hnone : t.binding? e.key = none := by
        rw [ht.binding, hfresh e he]
        rfl
      rw [h.binding_added e he, hnone, hindex]
      simp [face?_of_at? hat]
    · rw [h.binding_kept k hk, h.index_kept k hk, ht.binding]
      cases hi : t.index.get? k with
      | none => rfl
      | some l =>
        obtain ⟨f, hf, -⟩ := ht.index_iff.mp hi
        simp [hf, h.kept l f hf]

end Agreement

end Definitions

end RouterConfig
