/-
RouterConfig.Proofs.Definition.Putting — edits that put branches into a
tree.

`Puts t loc ds t'` says that `t'` is `t` with the definitions `ds`, and all
below them, put last below one place: the roots are those with the branches
appended, and every other key keeps its place and its value. What is made
and then filled from within was put as a whole (`Puts.below`). An indexed
tree is determined by its roots (`Indexed.ext`), so this is all there is to
say of the two.

A tree is ready for a path when the way down to it is made and holds no
value. There the next step is made, or made and given a value, at once
(`ensure_ready`, `setValue_ready`).
-/
import Mathlib.Data.List.Sort
import RouterConfig.Proofs.Definition.Demands
import RouterConfig.Proofs.Definition.Graft

namespace RouterConfig

/-! ## 1. Trees of the same roots -/

namespace Dictionary

variable {α : Type u}

theorem lookup_eq_some_iff {key : String} {value : α} {l : List (String × α)}
    (h : l.Pairwise fun a b => a.1 < b.1) : lookup key l = some value ↔ (key, value) ∈ l := by
  induction l with
  | nil => simp [lookup]
  | cons e rest ih =>
    obtain ⟨k, v⟩ := e
    obtain ⟨hlt, hrest⟩ := List.pairwise_cons.mp h
    rw [lookup, List.mem_cons]
    by_cases hk : k = key
    · subst hk
      have hnot : (k, value) ∉ rest := fun hmem => String.lt_irrefl k (hlt (k, value) hmem)
      simp [hnot, eq_comm]
    · simp [hk, Ne.symm hk, ih hrest]

/-- Dictionaries with the same value under every key are equal. -/
theorem ext_get? {d e : Dictionary α} (h : ∀ k, d.get? k = e.get? k) : d = e := by
  have hmem : ∀ entry, entry ∈ d.entries ↔ entry ∈ e.entries := by
    rintro ⟨k, v⟩
    rw [← lookup_eq_some_iff d.ascending, ← lookup_eq_some_iff e.ascending]
    exact iff_of_eq (congrArg (· = some v) (h k))
  have hirrefl : Std.Irrefl fun a b : String × α => a.1 < b.1 := ⟨fun a => String.lt_irrefl a.1⟩
  have hantisymm : Std.Antisymm fun a b : String × α => a.1 < b.1 :=
    ⟨fun a b hab hba => absurd (String.lt_trans hab hba) (String.lt_irrefl a.1)⟩
  obtain ⟨entries, ascending⟩ := d
  obtain ⟨entries', ascending'⟩ := e
  obtain rfl : entries = entries' := ascending.eq_of_mem_iff ascending' @hmem
  rfl

end Dictionary

namespace Definitions

/-- An indexed tree is determined by its roots, its grammar and its policy. -/
theorem Indexed.ext {t t' : Definitions} (h : Indexed t) (h' : Indexed t')
    (hschema : t.schema = t'.schema) (hpolicy : t.policy = t'.policy)
    (hroots : t.roots = t'.roots) : t = t' := by
  have hface : t.face? = t'.face? := by
    funext l
    rw [face?, face?, hroots]
  have hindex : t.index = t'.index := by
    refine Dictionary.ext_get? fun k => Option.ext fun l => ?_
    rw [h.index_iff, h'.index_iff, hface]
  have hbindings : t.bindings = t'.bindings := by
    refine Dictionary.ext_get? fun k => ?_
    have hbinding : t.binding? k = t'.binding? k := by
      rw [h.binding, h'.binding, hface, hindex]
    exact hbinding
  cases t
  cases t'
  cases hschema
  cases hpolicy
  cases hroots
  cases hindex
  cases hbindings
  rfl

end Definitions

/-! ## 2. Several definitions put last -/

namespace Definition

/-- The roots with definitions put last below a place, in order. -/
def appendAll (ds : List Definition) (loc : Location) (roots : List Definition) :
    List Definition :=
  ds.foldl (fun roots d => appendAt d loc roots) roots

variable {loc : Location} {roots siblings : List Definition}

theorem appendAll_append (ds es : List Definition) (loc : Location) (roots : List Definition) :
    appendAll (ds ++ es) loc roots = appendAll es loc (appendAll ds loc roots) :=
  List.foldl_append

/-- To change a definition that was put last is to put the changed one. -/
theorem modifyAt_appendAt (room : below? roots loc = some siblings) (g : Definition → Definition)
    (d : Definition) : modifyAt g (loc ++ [siblings.length]) (appendAt d loc roots)
      = appendAt (g d) loc roots := by
  by_cases hloc : loc = []
  · subst hloc
    obtain rfl : roots = siblings := by simpa using room
    exact modify_concat roots d g
  · rw [below?_eq_map_at? _ hloc] at room
    obtain ⟨p, hp, rfl⟩ := Option.map_eq_some_iff.mp room
    rw [appendAt_eq_modifyAt d hloc, appendAt_eq_modifyAt (g d) hloc, modifyAt_concat g hloc,
      modifyAt_modifyAt]
    refine modifyAt_congr hp ?_
    simp only [modify_concat]

theorem withChildren_self (d : Definition) : d.withChildren d.children = d := by
  cases d
  rfl

/-- What is put below a definition that was put last is put with it. -/
theorem appendAll_appendAt (room : below? roots loc = some siblings) (d : Definition)
    (cs : List Definition) :
    appendAll cs (loc ++ [siblings.length]) (appendAt d loc roots)
      = appendAt (d.withChildren (d.children ++ cs)) loc roots := by
  induction cs generalizing d with
  | nil =>
    rw [List.append_nil]
    exact congrArg (appendAt · loc roots) (d.withChildren_self).symm
  | cons c rest ih =>
    have hfirst : appendAt c (loc ++ [siblings.length]) (appendAt d loc roots)
        = appendAt (d.withChildren (d.children ++ [c])) loc roots := by
      rw [appendAt_eq_modifyAt c (by simp)]
      exact modifyAt_appendAt room _ d
    have hrest := ih (d.withChildren (d.children ++ [c]))
    rw [withChildren_children, withChildren_withChildren, List.append_assoc] at hrest
    rw [appendAll, List.foldl_cons, hfirst]
    exact hrest

theorem keys_of_childless {d : Definition} (h : d.children = []) :
    (walkAll [d]).map (·.key) = [d.key] := by
  rw [walkAll_singleton, walk_eq, h]
  rfl

theorem not_mem_keys_withChildren {d : Definition} {cs : List Definition} {k : String}
    (h : k ∉ (walkAll [d.withChildren cs]).map (·.key)) :
    k ≠ d.key ∧ k ∉ (walkAll cs).map (·.key) := by
  rwa [walkAll_singleton, walk_eq, List.map_cons, List.mem_cons, not_or] at h

end Definition

/-! ## 3. Branches that are put -/

namespace Definitions

open Definition

/-- None of the keys of the definitions, nor of those below them, is in the tree. -/
def Vacant (t : Definitions) (ds : List Definition) : Prop :=
  ∀ e ∈ walkAll ds, t.index.get? e.key = none

/-- The tree `t'` is `t` with the definitions put last below a place. -/
structure Puts (t : Definitions) (loc : Location) (ds : List Definition) (t' : Definitions) :
    Prop where
  indexed : Indexed t'
  schema_eq : t'.schema = t.schema
  policy_eq : t'.policy = t.policy
  roots_eq : t'.roots = appendAll ds loc t.roots
  index_kept : ∀ k, k ∉ (walkAll ds).map (·.key) → t'.index.get? k = t.index.get? k
  value_kept : ∀ k, k ∉ (walkAll ds).map (·.key) → t'.value? k = t.value? k

section Puts

variable {t u t' : Definitions} {loc : Location} {ds es : List Definition} {b : Definition}
  {siblings : List Definition}

theorem Puts.refl (h : Indexed t) : Puts t loc [] t where
  indexed := h
  schema_eq := rfl
  policy_eq := rfl
  roots_eq := rfl
  index_kept _ _ := rfl
  value_kept _ _ := rfl

theorem Puts.trans (h : Puts t loc ds u) (h' : Puts u loc es t') : Puts t loc (ds ++ es) t' where
  indexed := h'.indexed
  schema_eq := h'.schema_eq.trans h.schema_eq
  policy_eq := h'.policy_eq.trans h.policy_eq
  roots_eq := by rw [h'.roots_eq, h.roots_eq, appendAll_append]
  index_kept k hk := by
    rw [walkAll_append, List.map_append, List.mem_append, not_or] at hk
    rw [h'.index_kept k hk.2, h.index_kept k hk.1]
  value_kept k hk := by
    rw [walkAll_append, List.map_append, List.mem_append, not_or] at hk
    rw [h'.value_kept k hk.2, h.value_kept k hk.1]

/-- What is put below a definition that was just put was put with it. -/
theorem Puts.below (room : below? t.roots loc = some siblings) (h : Puts t loc [b] u)
    (hb : b.children = []) (h' : Puts u (loc ++ [siblings.length]) ds t') :
    Puts t loc [b.withChildren ds] t' where
  indexed := h'.indexed
  schema_eq := h'.schema_eq.trans h.schema_eq
  policy_eq := h'.policy_eq.trans h.policy_eq
  roots_eq := by
    rw [h'.roots_eq, h.roots_eq]
    show appendAll ds _ (appendAt b loc t.roots) = appendAt _ loc t.roots
    rw [appendAll_appendAt room, hb, List.nil_append]
  index_kept k hk := by
    obtain ⟨hself, hbelow⟩ := not_mem_keys_withChildren hk
    rw [h'.index_kept k hbelow, h.index_kept k (by simpa [keys_of_childless hb] using hself)]
  value_kept k hk := by
    obtain ⟨hself, hbelow⟩ := not_mem_keys_withChildren hk
    rw [h'.value_kept k hbelow, h.value_kept k (by simpa [keys_of_childless hb] using hself)]

theorem Puts.grow {done : ConfigPath} {step : Step} (h : Indexed t) (stands : t.Stands done loc)
    (hopen : t.Open loc) (room : below? t.roots loc = some siblings)
    (vacant : t.index.get? (done.snoc step).key = none) :
    Puts t loc [bound t.schema done step.segment] (t.grow done step loc siblings.length) where
  indexed := h.grow stands room hopen vacant
  schema_eq := rfl
  policy_eq := rfl
  roots_eq := rfl
  index_kept k hk := by
    rw [keys_of_childless rfl, List.mem_singleton, key_bound] at hk
    rw [index_grow, if_neg (Ne.symm hk)]
  value_kept k hk := by
    rw [keys_of_childless rfl, List.mem_singleton, key_bound] at hk
    rw [value?_eq_stored?, value?_eq_stored?, stored?_grow h room, if_neg (Ne.symm hk)]

/-- The definition that was put gets a value. -/
theorem Puts.value (room : below? t.roots loc = some siblings) (h : Puts t loc [b] u)
    (hb : b.children = []) (hkey : u.index.get? b.key = some (loc ++ [siblings.length]))
    (v : Value) : Puts t loc [{ b with value := v }]
      (u.relabel (loc ++ [siblings.length]) fun d => { d with value := v }) where
  indexed := by
    have hat : u.at? (loc ++ [siblings.length]) = some b := by
      rw [at?, h.roots_eq]
      show Definition.at? (appendAt b loc t.roots) _ = _
      rw [at?_appendAt_new room]
      rfl
    refine h.indexed.relabel (by intro d; rfl) (by intro d; rfl) (by intro d; rfl)
      (by intro d; rfl) (.inl ?_)
    exact (children_eq_nil_iff hat).mp hb
  schema_eq := h.schema_eq
  policy_eq := h.policy_eq
  roots_eq := by
    show modifyAt _ _ u.roots = appendAt _ loc t.roots
    rw [h.roots_eq]
    exact modifyAt_appendAt room _ b
  index_kept k hk := by
    have hkeys : (walkAll [{ b with value := v }]).map (·.key) = [b.key] := keys_of_childless hb
    rw [hkeys, ← keys_of_childless hb] at hk
    rw [index_relabel, h.index_kept k hk]
  value_kept k hk := by
    have hkeys : (walkAll [{ b with value := v }]).map (·.key) = [b.key] := keys_of_childless hb
    rw [hkeys] at hk
    have hne : b.key ≠ k := by
      rintro rfl
      exact hk List.mem_cons_self
    rw [← keys_of_childless hb] at hk
    rw [← h.value_kept k hk, value?_eq_stored?, value?_eq_stored?, stored?_relabel h.indexed hkey,
      Option.map_map]
    simp [hne, Function.comp_def]

end Puts

/-! ## 4. Paths whose way is made -/

/-- The definitions on the way to the path are there, that of the path at this place, and hold no
value. -/
structure Ready (t : Definitions) (path : ConfigPath) (loc : Location) : Prop where
  indexed : Indexed t
  stands : t.Stands path loc
  empty : ∀ p ∈ path.way, t.value? p.key = some .empty

theorem ready_root {t : Definitions} (h : Indexed t) : t.Ready .root [] where
  indexed := h
  stands := stands_nil t rfl
  empty _ hp := by cases hp

section Ready

variable {t t' : Definitions} {path : ConfigPath} {loc loc' : Location} {ds : List Definition}
  {siblings : List Definition}

theorem not_isLeaf_of_value? {k : String} {l : Location} (hk : t.index.get? k = some l)
    (hvalue : t.value? k = some .empty) : (t.at? l).any (·.isLeaf) = false := by
  obtain ⟨l', f, hl', hf, hempty⟩ := value?_eq_some.mp hvalue
  obtain rfl := Option.some.inj (hk.symm.trans hl')
  refine not_isLeaf_of_open fun g hg => ?_
  rw [Option.some.inj (hg.symm.trans hf), hempty]

theorem exists_index_of_value? {k : String} {v : Value} (h : t.value? k = some v) :
    ∃ l, t.index.get? k = some l := by
  obtain ⟨l, -, hl, -⟩ := value?_eq_some.mp h
  exact ⟨l, hl⟩

theorem Ready.open (h : t.Ready path loc) : t.Open loc := by
  cases hroot : path.isRoot with
  | true =>
    rw [h.stands.eq_nil hroot]
    intro f hf
    cases hf
  | false =>
    exact open_of_not_isLeaf (not_isLeaf_of_value? (h.stands.index hroot)
      (h.empty path (ConfigPath.mem_way_self hroot)))

/-- Putting what is not there leaves the way as it is. -/
theorem Ready.puts (h : t.Ready path loc) (hvacant : t.Vacant ds) (hputs : Puts t loc' ds t') :
    t'.Ready path loc where
  indexed := hputs.indexed
  stands := by
    cases hroot : path.isRoot with
    | true =>
      rw [h.stands.eq_nil hroot]
      exact stands_nil t' hroot
    | false =>
      have hindex := h.stands.index hroot
      refine stands_of_index hroot ?_
      rw [hputs.index_kept, hindex]
      intro hmem
      obtain ⟨e, he, hkey⟩ := List.mem_map.mp hmem
      rw [← hkey, hvacant e he] at hindex
      cases hindex
  empty p hp := by
    have hvalue := h.empty p hp
    rw [hputs.value_kept, hvalue]
    intro hmem
    obtain ⟨e, he, hkey⟩ := List.mem_map.mp hmem
    obtain ⟨l, hl⟩ := exists_index_of_value? hvalue
    rw [← hkey, hvacant e he] at hl
    cases hl

/-- A descent along a way that is made changes nothing. -/
theorem ensureBelow_ready {done : ConfigPath} {m : Location} (steps : List Step) (rest : List Step)
    (hm : t.Stands done m) (hloc : t.Stands ⟨done.steps ++ steps⟩ loc)
    (hempty : ∀ p ∈ done.wayFrom steps, t.value? p.key = some .empty) :
    ensureBelow done m (steps ++ rest) t = ensureBelow ⟨done.steps ++ steps⟩ loc rest t := by
  induction steps generalizing done m with
  | nil =>
    rw [ConfigPath.mk_append_nil] at hloc ⊢
    rw [hm.unique hloc, List.nil_append]
  | cons step more ih =>
    rw [ConfigPath.wayFrom, List.forall_mem_cons] at hempty
    obtain ⟨found, hfound⟩ := exists_index_of_value? hempty.1
    have hleaf := not_isLeaf_of_value? hfound hempty.1
    rw [ConfigPath.mk_append_cons] at hloc ⊢
    rw [List.cons_append, ensureBelow_found hfound (by simp [hleaf])]
    exact ih (stands_snoc hfound) hloc hempty.2

/-- One step below a way that is made is made last. -/
theorem ensure_ready (h : t.Ready path loc) {step : Step}
    (room : below? t.roots loc = some siblings) (vacant : t.index.get? (path.snoc step).key = none) :
    ensure (path.snoc step) t
      = .ok (loc ++ [siblings.length]) (t.grow path step loc siblings.length) := by
  have hdescent := ensureBelow_ready path.steps [step] (stands_nil t rfl : t.Stands .root [])
    h.stands h.empty
  rw [ensure, if_neg (by simp), ConfigPath.snoc_steps, hdescent]
  exact ensureBelow_missing vacant room

theorem setValue_ready (h : t.Ready path loc) {step : Step}
    (room : below? t.roots loc = some siblings) (vacant : t.index.get? (path.snoc step).key = none)
    (v : Value) : setValue (path.snoc step) v t
      = .ok () ((t.grow path step loc siblings.length).relabel (loc ++ [siblings.length])
        fun d => { d with value := v }) := by
  have hcheck : checkVacant (path.snoc step) t = .ok () t := by
    rw [checkVacant_apply, h.indexed.get?_eq_none.mpr vacant]
  rw [setValue, bind_of_ok hcheck, bind_of_ok (ensure_ready h room vacant), update_apply]

/-- After a step is made, the way to it is. -/
theorem Ready.grow (h : t.Ready path loc) {step : Step} (room : below? t.roots loc = some siblings)
    (vacant : t.index.get? (path.snoc step).key = none) :
    (t.grow path step loc siblings.length).Ready (path.snoc step) (loc ++ [siblings.length]) where
  indexed := h.indexed.grow h.stands room h.open vacant
  stands := stands_grow _
  empty p hp := by
    obtain ⟨hroot, hstarts⟩ := ConfigPath.mem_way.mp hp
    rw [value?_eq_stored?, stored?_grow h.indexed room]
    rcases List.prefix_concat_iff.mp hstarts with heq | hstarts
    · have hsnoc : path.snoc step = p := ConfigPath.eq_of_steps heq.symm
      rw [if_pos (congrArg ConfigPath.key hsnoc)]
      rfl
    · have hempty := h.empty p (ConfigPath.mem_way.mpr ⟨hroot, hstarts⟩)
      split
      case isTrue => rfl
      case isFalse => rw [← value?_eq_stored?, hempty]

end Ready

end Definitions

end RouterConfig
