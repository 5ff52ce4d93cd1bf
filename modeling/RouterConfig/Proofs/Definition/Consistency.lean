/-
RouterConfig.Proofs.Definition.Consistency — what holds of every tree that
was made by calls from the empty tree.

`consistent_build`: whatever the calls, and whether or not each succeeded,
the tree is `Consistent`. The index and the places of the tree answer to
each other, no two definitions have one key, each definition stands below
the one that its parent path names, a chain leads from a root down to the
definition of its key, and no definition holds a value beside others below
it.

## How the proof goes

The invariant that every edit keeps is `Indexed`, of the module of that
name: it speaks of the places of the tree only, so that it can be kept step
by step. `keeps_call` says of each of the calls that its edit consists of
changes that keep the invariant, `indexed_run` goes through a list of calls
by induction, and `indexed_build` starts it at the empty tree. What is to be
shown of walks, sizes and chains follows from the invariant without going
through the calls again (`Indexed.consistent`).

## Side conditions

There are none: the grammar, the policy and the calls are any. A call that
fails may have changed the tree before it did, and the next call goes on
from there. Merging is not one of the calls; a merge may break the
consistency of a tree, and `Merge.Override` tells when.
-/
import Mathlib.Data.List.Chain
import RouterConfig.Proofs.Definition.Edits

namespace RouterConfig

/-! ## 1. Chains -/

namespace Definition

/-- A chain ends at the definition of its place. -/
theorem getLast?_along {roots : List Definition} {l : Location} {d : Definition}
    (h : at? roots l = some d) : (along roots l).getLast? = some d := by
  induction l generalizing roots with
  | nil => cases h
  | cons i rest ih =>
    cases rest with
    | nil =>
      rw [at?_singleton] at h
      simp [along, h]
    | cons j more =>
      rw [at?_cons _ _ (by simp)] at h
      obtain ⟨c, hc, h⟩ := Option.bind_eq_some_iff.mp h
      have hlast := ih h
      rw [along, hc]
      simp [List.getLast?_cons, hlast]

/-- A chain starts at a root. -/
theorem mem_of_head?_along {roots : List Definition} {l : Location} {d : Definition}
    (h : (along roots l).head? = some d) : d ∈ roots := by
  cases l with
  | nil => cases h
  | cons i rest =>
    rw [along] at h
    cases hr : roots[i]? with
    | none => simp [hr] at h
    | some c =>
      obtain rfl : c = d := by simpa [hr] using h
      exact List.mem_of_getElem? hr

/-- A chain goes down from child to child. -/
theorem isChain_along (roots : List Definition) (l : Location) :
    (along roots l).IsChain fun p c => c ∈ p.children := by
  induction l generalizing roots with
  | nil => simp [along]
  | cons i rest ih =>
    rw [along]
    cases hr : roots[i]? with
    | none => simp
    | some d =>
      rw [List.isChain_cons]
      exact ⟨fun c hc => mem_of_head?_along hc, ih d.children⟩

end Definition

/-! ## 2. Sizes -/

namespace Dictionary

variable {α : Type u}

theorem nodup_keys (d : Dictionary α) : d.keys.Nodup := by
  have := d.ascending
  rw [keys, List.Nodup, List.pairwise_map]
  refine this.imp ?_
  intro a b hlt heq
  rw [heq] at hlt
  exact String.lt_irrefl _ hlt

theorem mem_keys {d : Dictionary α} {k : String} : k ∈ d.keys ↔ ∃ v, d.get? k = some v := by
  rw [keys, get?]
  generalize d.entries = l
  induction l with
  | nil => simp [lookup]
  | cons e rest ih =>
    obtain ⟨k', v'⟩ := e
    rw [List.map_cons, List.mem_cons, ih, lookup]
    by_cases hk : k' = k
    · simp [hk]
    · simp [hk, Ne.symm hk]

end Dictionary

namespace Definitions

theorem mem_paths_iff_contains {t : Definitions} {k : String} :
    k ∈ t.paths ↔ t.contains k = true := by
  rw [paths, Dictionary.mem_keys, contains, Dictionary.contains, Option.isSome_iff_exists]

namespace Indexed

variable {t : Definitions} (h : Indexed t)
include h

/-- The keys of a tree are those of its definitions. -/
theorem mem_paths {k : String} : k ∈ t.paths ↔ k ∈ t.walk.map (·.key) := by
  rw [paths, Dictionary.mem_keys, List.mem_map]
  constructor
  · rintro ⟨l, hl⟩
    obtain ⟨d, hd, -, hkey⟩ := h.get?_of_index hl
    refine ⟨d, h.mem_walk.mpr ?_, hkey⟩
    rw [hkey]
    exact hd
  · rintro ⟨d, hd, rfl⟩
    obtain ⟨l, hl, -⟩ := h.get?_eq_some.mp (h.mem_walk.mp hd)
    exact ⟨l, hl⟩

theorem mem_paths_iff_get? {k : String} : k ∈ t.paths ↔ ∃ x, t.get? k = some x := by
  rw [mem_paths_iff_contains, h.contains_eq, Option.isSome_iff_exists]

/-- There are as many keys as definitions. -/
theorem size_eq : t.size = t.walk.length := by
  have hperm : t.paths.Perm (t.walk.map (·.key)) :=
    (List.perm_ext_iff_of_nodup t.index.nodup_keys h.nodup_keys).mpr fun _ => h.mem_paths
  have := hperm.length_eq
  simpa [paths, Dictionary.keys, size, Dictionary.size] using this

end Indexed

/-! ## 3. Runs of calls -/

/-- One call that edits a tree. -/
inductive Call where
  | ensure (path : ConfigPath)
  | setValue (path : ConfigPath) (value : Value)
  | insertValue (path : ConfigPath) (text : String)
  | insertValues (path : ConfigPath) (texts : List String)
  | setComment (path : ConfigPath) (comment : String)
  | insertTemplate (above : ConfigPath) (template : Template)

/-- The edit that a call makes. -/
def Call.edit : Call → Edit Unit
  | .ensure path => discard (Definitions.ensure path)
  | .setValue path value => Definitions.setValue path value
  | .insertValue path text => Definitions.insertValue path text
  | .insertValues path texts => Definitions.insertValues path texts
  | .setComment path comment => Definitions.setComment path comment
  | .insertTemplate above template => Definitions.insertTemplate above template

/-- The tree after calls in order. A call that fails leaves what it did, and the next one goes on
from there. -/
def run (t : Definitions) (calls : List Call) : Definitions :=
  calls.foldl (fun t call => call.edit.after t) t

/-- The tree that calls make from the empty one. -/
def build (schema : SchemaNode) (policy : DuplicatePolicy) (calls : List Call) : Definitions :=
  run (new schema policy) calls

/-- No call breaks the invariant, whatever it does to the tree. -/
theorem keeps_call (call : Call) : Keeps (fun _ => True) call.edit := by
  cases call with
  | ensure path => exact ((keeps_ensure path).bind fun _ => .pure ()).mono fun _ _ => trivial
  | setValue path value => exact (keeps_setValue path value).mono fun _ _ => trivial
  | insertValue path text => exact (keeps_setValue path _).mono fun _ _ => trivial
  | insertValues path texts => exact (keeps_setValue path _).mono fun _ _ => trivial
  | setComment path comment => exact (keeps_setComment path comment).mono fun _ _ => trivial
  | insertTemplate above template =>
    exact (keeps_insertTemplate above template).mono fun _ _ => trivial

theorem indexed_call {t : Definitions} (h : Indexed t) (call : Call) :
    Indexed (call.edit.after t) := h.changes (keeps_call call t h)

theorem indexed_run {t : Definitions} (h : Indexed t) (calls : List Call) :
    Indexed (t.run calls) := by
  induction calls generalizing t with
  | nil => exact h
  | cons call rest ih => exact ih (indexed_call h call)

/-- A tree made by calls agrees with its index. -/
theorem indexed_build (schema : SchemaNode) (policy : DuplicatePolicy) (calls : List Call) :
    Indexed (build schema policy calls) :=
  indexed_run (indexed_new schema policy) calls

theorem changes_run {t : Definitions} (h : Indexed t) (calls : List Call) :
    Changes (fun _ => True) t (t.run calls) := by
  induction calls generalizing t with
  | nil => exact .refl
  | cons call rest ih => exact (keeps_call call t h).trans (ih (indexed_call h call))

/-- A tree made by calls comes from the empty one by changes. -/
theorem changes_build (schema : SchemaNode) (policy : DuplicatePolicy) (calls : List Call) :
    Changes (fun _ => True) (new schema policy) (build schema policy calls) :=
  changes_run (indexed_new schema policy) calls

/-! ## 4. The consistency of a tree -/

/-- A tree, its index and its chains tell the same. -/
structure Consistent (t : Definitions) : Prop where
  /-- An indexed key leads to a definition of that key. -/
  resolves : ∀ k l, t.index.get? k = some l → ∃ d, t.at? l = some d ∧ d.key = k
  /-- A definition is indexed under its own key, at the place where it stands. -/
  indexed : ∀ l d, t.at? l = some d → t.index.get? d.key = some l
  /-- The walk lists what stands at the places of the tree. -/
  walked : ∀ d, d ∈ t.walk ↔ ∃ l, t.at? l = some d
  /-- No two definitions have one key. -/
  distinct : (t.walk.map (·.key)).Nodup
  size_eq : t.size = t.walk.length
  /-- The roots are the definitions without a parent path. -/
  root : ∀ d ∈ t.walk, d ∈ t.roots ↔ d.parent.isRoot = true
  /-- The parent path of any other definition leads to the one above it. -/
  parent : ∀ p ∈ t.walk, ∀ c ∈ p.children, c.parent.isRoot = false ∧ c.parent.key = p.key
  /-- A chain starts at a root, goes from child to child and ends at the definition of its key. -/
  chain : ∀ k d, t.get? k = some d → (t.chain k).getLast? = some d ∧
    (∀ r, (t.chain k).head? = some r → r ∈ t.roots) ∧
    (t.chain k).IsChain fun p c => c ∈ p.children
  /-- A key without a definition has no chain. -/
  chainless : ∀ k, t.get? k = none → t.chain k = []
  /-- What holds a value has nothing below it. -/
  leaf : ∀ d ∈ t.walk, d.value = .empty ∨ d.children = []

namespace Indexed

variable {t : Definitions} (h : Indexed t)
include h

theorem consistent : Consistent t where
  resolves _ _ hk := h.at?_of_index hk
  indexed _ _ hd := h.index_of_at? hd
  walked _ := Definition.mem_walkAll
  distinct := h.nodup_keys
  size_eq := h.size_eq
  root _ hd := h.mem_roots hd
  parent _ hp _ hc := ⟨(h.child_of_mem hp hc).1, (h.child_of_mem hp hc).2.1⟩
  chain k d hd := by
    obtain ⟨l, hl, hat, -⟩ := h.get?_eq_some.mp hd
    rw [chain, hl]
    exact ⟨Definition.getLast?_along hat, fun r hr => Definition.mem_of_head?_along hr,
      Definition.isChain_along t.roots l⟩
  chainless k hk := by
    rw [chain, h.get?_eq_none.mp hk]
  leaf d hd := by
    cases hc : d.children with
    | nil => exact .inr rfl
    | cons c rest =>
      have hmem : c ∈ d.children := by simp [hc]
      exact .inl (h.child_of_mem hd hmem).2.2

end Indexed

/-- **Every tree made by calls is consistent**, also after calls that failed. -/
theorem consistent_build (schema : SchemaNode) (policy : DuplicatePolicy) (calls : List Call) :
    Consistent (build schema policy calls) :=
  (indexed_build schema policy calls).consistent

end Definitions

end RouterConfig
