/-
RouterConfig.Proofs.Merge.Attachment — putting a whole branch into a tree.

Only the key of the branch itself has to be free. Every definition of the
branch is then recorded under its own key, whatever stood there, so what
is said of the index here needs no freedom of the other keys:
`index_adopted_new` for the keys of the branch, `index_adopted_old` for
all others.
-/
import RouterConfig.Merge
import RouterConfig.Proofs.Definition.Edits

namespace RouterConfig

namespace Definitions

/-! ## 1. Recording several keys -/

/-- The tree with places and grammar nodes recorded under keys, in order. -/
def registerAll (t : Definitions) (entries : List (Location × String × Option SchemaNode)) :
    Definitions :=
  entries.foldl (fun t (location, key, node) => t.register key location node) t

theorem registerAll_cons (t : Definitions) (e : Location × String × Option SchemaNode)
    (entries : List (Location × String × Option SchemaNode)) :
    t.registerAll (e :: entries) = (t.register e.2.1 e.1 e.2.2).registerAll entries := rfl

/-- Recording keys changes the two indexes only. -/
theorem fields_registerAll (t : Definitions)
    (entries : List (Location × String × Option SchemaNode)) :
    (t.registerAll entries).schema = t.schema ∧ (t.registerAll entries).policy = t.policy ∧
      (t.registerAll entries).roots = t.roots := by
  induction entries generalizing t with
  | nil => exact ⟨rfl, rfl, rfl⟩
  | cons e rest ih =>
    rw [registerAll_cons]
    exact ih _

/-- A key that is not registered leads where it led. -/
theorem index_registerAll_of_not_mem {t : Definitions}
    {entries : List (Location × String × Option SchemaNode)} {k : String}
    (h : k ∉ entries.map (·.2.1)) : (t.registerAll entries).index.get? k = t.index.get? k := by
  induction entries generalizing t with
  | nil => rfl
  | cons e rest ih =>
    rw [List.map_cons, List.mem_cons, not_or] at h
    rw [registerAll_cons, ih h.2, index_register, if_neg (Ne.symm h.1)]

theorem binding_registerAll_of_not_mem {t : Definitions}
    {entries : List (Location × String × Option SchemaNode)} {k : String}
    (h : k ∉ entries.map (·.2.1)) : (t.registerAll entries).binding? k = t.binding? k := by
  induction entries generalizing t with
  | nil => rfl
  | cons e rest ih =>
    rw [List.map_cons, List.mem_cons, not_or] at h
    rw [registerAll_cons, ih h.2, binding_register, if_neg (Ne.symm h.1)]

/-- Of several keys without repetition each leads where it was registered. -/
theorem index_registerAll_of_mem {t : Definitions}
    {entries : List (Location × String × Option SchemaNode)}
    (hnodup : (entries.map (·.2.1)).Nodup) {e : Location × String × Option SchemaNode}
    (he : e ∈ entries) : (t.registerAll entries).index.get? e.2.1 = some e.1 := by
  induction entries generalizing t with
  | nil => simp at he
  | cons e' rest ih =>
    rw [List.map_cons, List.nodup_cons] at hnodup
    rw [registerAll_cons]
    rcases List.mem_cons.mp he with rfl | he
    · rw [index_registerAll_of_not_mem hnodup.1, index_register, if_pos rfl]
    · exact ih hnodup.2 he

theorem binding_registerAll_of_mem {t : Definitions}
    {entries : List (Location × String × Option SchemaNode)}
    (hnodup : (entries.map (·.2.1)).Nodup) {e : Location × String × Option SchemaNode}
    (he : e ∈ entries) : (t.registerAll entries).binding? e.2.1 = e.2.2.or (t.binding? e.2.1) := by
  induction entries generalizing t with
  | nil => simp at he
  | cons e' rest ih =>
    rw [List.map_cons, List.nodup_cons] at hnodup
    rw [registerAll_cons]
    rcases List.mem_cons.mp he with rfl | he
    · rw [binding_registerAll_of_not_mem hnodup.1, binding_register, if_pos rfl]
    · have hne : e'.2.1 ≠ e.2.1 := by
        intro heq
        exact hnodup.1 (heq ▸ List.mem_map_of_mem he)
      rw [ih hnodup.2 he, binding_register, if_neg hne]

/-- A branch is registered under the keys of its definitions. -/
theorem map_key_registrations (loc : Location) (d : Definition) :
    (registrations loc d).map (·.2.1) = d.walk.map (·.key) := by
  rw [registrations_eq, Definition.walk_eq, List.map_cons, List.map_cons,
    map_key_registrationsBelow]

/-- What stands at a place of a branch is registered where the branch puts it. -/
theorem mem_registrations {loc m : Location} {d e : Definition}
    (h : Definition.at? [d] (0 :: m) = some e) :
    (loc ++ m, e.key, e.node) ∈ registrations loc d := by
  rw [registrations_eq]
  cases m with
  | nil =>
    obtain rfl : d = e := by simpa [Definition.at?] using h
    simp
  | cons j rest =>
    have hat : Definition.at? d.children (j :: rest) = some e := by
      simpa [Definition.at?] using h
    exact List.mem_cons_of_mem _ (mem_registrationsBelow.mpr ⟨j, rest, e, hat, by simp⟩)

/-- What a walk over a branch meets stands at a place of the branch. -/
theorem exists_at?_of_mem_walk {d e : Definition} (h : e ∈ d.walk) :
    ∃ m, Definition.at? [d] (0 :: m) = some e := by
  rw [Definition.walk_eq] at h
  rcases List.mem_cons.mp h with rfl | h
  · exact ⟨[], rfl⟩
  · obtain ⟨l, hl⟩ := Definition.mem_walkAll.mp h
    refine ⟨l, ?_⟩
    rw [Definition.at?_cons _ _ (by rintro rfl; cases hl)]
    simpa using hl

theorem mem_walk_of_at? {d e : Definition} {m : Location}
    (h : Definition.at? [d] (0 :: m) = some e) : e ∈ d.walk := by
  have := Definition.mem_walkAll.mpr ⟨_, h⟩
  simpa [Definition.walkAll] using this

/-! ## 2. The tree with one branch more -/

/-- The tree with a branch at position `i` below a place, and all of it recorded. -/
def adopted (t : Definitions) (loc : Location) (i : Nat) (d : Definition) : Definitions :=
  registerAll { t with roots := Definition.appendAt d loc t.roots } (registrations (loc ++ [i]) d)

section Adopted

variable {t : Definitions} {loc : Location} {siblings : List Definition} {d : Definition}

theorem roots_adopted (i : Nat) :
    (t.adopted loc i d).roots = Definition.appendAt d loc t.roots :=
  (fields_registerAll _ _).2.2

theorem schema_adopted (i : Nat) : (t.adopted loc i d).schema = t.schema :=
  (fields_registerAll _ _).1

theorem policy_adopted (i : Nat) : (t.adopted loc i d).policy = t.policy :=
  (fields_registerAll _ _).2.1

/-- What stands in the branch stands at the new place and below it. -/
theorem at?_adopted_new (room : Definition.below? t.roots loc = some siblings) (m : Location) :
    (t.adopted loc siblings.length d).at? (loc ++ siblings.length :: m)
      = Definition.at? [d] (0 :: m) := by
  rw [at?, roots_adopted, Definition.at?_appendAt_new room]

/-- What is not in the branch is as it was. -/
theorem face?_adopted_old (room : Definition.below? t.roots loc = some siblings) {l : Location}
    (hl : ¬ (loc ++ [siblings.length]) <+: l) :
    (t.adopted loc siblings.length d).face? l = t.face? l := by
  rw [face?, roots_adopted]
  exact Definition.face?_appendAt_old room hl

theorem index_adopted_old (i : Nat) {k : String} (hk : k ∉ d.walk.map (·.key)) :
    (t.adopted loc i d).index.get? k = t.index.get? k := by
  rw [adopted, index_registerAll_of_not_mem (by rwa [map_key_registrations])]

theorem binding_adopted_old (i : Nat) {k : String} (hk : k ∉ d.walk.map (·.key)) :
    (t.adopted loc i d).binding? k = t.binding? k := by
  rw [adopted, binding_registerAll_of_not_mem (by rwa [map_key_registrations])]
  rfl

/-- The keys of the branch lead into the branch. -/
theorem index_adopted_new (i : Nat) (hnodup : (d.walk.map (·.key)).Nodup) {m : Location}
    {e : Definition} (he : Definition.at? [d] (0 :: m) = some e) :
    (t.adopted loc i d).index.get? e.key = some (loc ++ i :: m) := by
  rw [← map_key_registrations (loc ++ [i])] at hnodup
  have := index_registerAll_of_mem (t := { t with roots := Definition.appendAt d loc t.roots })
    hnodup (mem_registrations he)
  simpa [adopted] using this

theorem binding_adopted_new (i : Nat) (hnodup : (d.walk.map (·.key)).Nodup) {e : Definition}
    (he : e ∈ d.walk) : (t.adopted loc i d).binding? e.key = e.node.or (t.binding? e.key) := by
  obtain ⟨m, hm⟩ := exists_at?_of_mem_walk he
  rw [← map_key_registrations (loc ++ [i])] at hnodup
  exact binding_registerAll_of_mem (t := { t with roots := Definition.appendAt d loc t.roots })
    hnodup (mem_registrations hm)

end Adopted

/-! ## 3. The attachment succeeds -/

/-- A branch whose key is free is attached below the place of its parent path, unless a value is
there. -/
theorem attach_eq_adopted {t : Definitions} {d : Definition} {loc : Location}
    {siblings : List Definition} (hfree : t.contains d.key = false)
    (hstands : t.Stands d.parent loc) (hopen : (t.at? loc).any (·.isLeaf) = false)
    (room : Definition.below? t.roots loc = some siblings) :
    attach d.parent d t = .ok () (t.adopted loc siblings.length d) := by
  have hplace : attachmentPlace d.parent t = .ok loc t := by
    cases hroot : d.parent.isRoot with
    | true =>
      obtain rfl := hstands.eq_nil hroot
      simp only [attachmentPlace, hroot, ↓reduceIte]
      rfl
    | false =>
      have hindex := hstands.index hroot
      simp only [attachmentPlace, hroot, Bool.false_eq_true, ↓reduceIte, get_bind, hindex,
        hopen]
      rfl
  have hattach : attach d.parent d t = (attachmentPlace d.parent >>= fun loc =>
      place d.parent loc d >>= fun loc => modify fun t => (registrations loc d).foldl
        (fun t (location, key, node) => t.register key location node) t) t := by
    simp only [attach, get_bind, hfree]
    rfl
  rw [hattach, bind_of_ok hplace, bind_of_ok (place_of_room room)]
  rfl

end Definitions

end RouterConfig
