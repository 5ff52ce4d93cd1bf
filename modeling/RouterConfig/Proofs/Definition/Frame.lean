/-
RouterConfig.Proofs.Definition.Frame — what changes for some paths leave
alone.

A change for a path alters the definitions of the keys that the key of the
path is within, and no other: `Changes.get?_apart`. Below a key where no
step holds a slash (`Tidy`), the definition of a longer key is the child
of the definition of the shorter one (`Tidy.get?_child`), so keys can be
read step by step there.
-/
import RouterConfig.Proofs.Definition.Edits

namespace RouterConfig

@[simp] theorem Definition.name_bound (schema : SchemaNode) (path : ConfigPath) (step : Step) :
    (bound schema path step.segment).name = step.literal :=
  congrArg Step.literal (Step.ofSegment_segment step)

namespace Definitions

/-! ## 1. Definitions that stay -/

/-- Changing one definition leaves that of a key that the changed one is not within. -/
theorem get?_relabel_apart {t : Definitions} (h : Indexed t) {f : Definition → Definition}
    (hf : ∀ d, (f d).children = d.children) {path : ConfigPath} {loc : Location} {k : String}
    (stands : t.index.get? path.key = some loc) (hk : ¬ KeyWithin k path.key) :
    (t.relabel loc f).get? k = t.get? k := by
  rw [get?, get?, index_relabel]
  cases hi : t.index.get? k with
  | none => rfl
  | some l =>
    refine Definition.at?_modifyAt_of_not_prefix hf ?_ t.roots
    rintro ⟨m, rfl⟩
    obtain ⟨d, hd, rfl⟩ := h.at?_of_index hi
    obtain ⟨g, hg, hgkey⟩ := h.index_iff.mp stands
    have hwithin := h.keyWithin_of_append (face?_of_at? hd) hg
    rw [hgkey] at hwithin
    exact hk hwithin

/-- A change leaves the definition of a key that the changed path is not within. -/
theorem Change.get?_apart {P : ConfigPath → Prop} {t t' : Definitions} (h : Indexed t)
    (hc : Change P t t') {k : String} (hP : ∀ p, P p → ¬ KeyWithin k p.key) :
    t'.get? k = t.get? k := by
  cases hc with
  | @grow path done step loc siblings allowed onWay stands room container vacant =>
    have hpath : KeyWithin (done.snoc step).key path.key :=
      ConfigPath.keyWithin_of_prefix (ConfigPath.isRoot_snoc done step) onWay
    have hne : (done.snoc step).key ≠ k := by
      rintro rfl
      exact hP path allowed hpath
    rw [get?, get?, index_grow, if_neg hne]
    cases hk : t.index.get? k with
    | none => rfl
    | some l =>
      obtain ⟨d, hd, rfl⟩ := h.at?_of_index hk
      refine Definition.at?_appendAt_of_not_prefix room ?_ ?_
      · rintro ⟨m, rfl⟩
        have hface := face?_of_at? hd
        rw [List.append_assoc, List.singleton_append, face?_eq_none_of_room room] at hface
        cases hface
      · -- the new definition would stand below the key
        rintro ⟨m, rfl⟩
        have hroot := stands.isRoot_eq_false
          (List.append_ne_nil_of_left_ne_nil (Definition.ne_nil_of_at? hd) m)
        obtain ⟨f, hf, hfkey⟩ := stands.face? h hroot
        have hwithin := h.keyWithin_of_append (face?_of_at? hd) hf
        rw [hfkey] at hwithin
        have hchild := KeyWithin.child done.key step.literal
        rw [← ConfigPath.key_snoc hroot] at hchild
        exact hP path allowed ((hwithin.trans hchild).trans hpath)
  | @value path loc v allowed stands childless =>
    exact get?_relabel_apart h (by intro d; rfl) stands (hP path allowed)
  | @comment path loc c allowed stands =>
    exact get?_relabel_apart h (by intro d; rfl) stands (hP path allowed)

/-- **Changes for paths that are not within a key leave the definition of the key.** -/
theorem Changes.get?_apart {P : ConfigPath → Prop} {t t' : Definitions} (h : Indexed t)
    (hc : Changes P t t') {k : String} (hP : ∀ p, P p → ¬ KeyWithin k p.key) :
    t'.get? k = t.get? k := by
  induction hc with
  | refl => rfl
  | tail hbefore hstep ih => rw [hstep.get?_apart (h.changes hbefore) hP, ih]

/-- The grammar of a tree stays. -/
theorem Changes.schema_eq {P : ConfigPath → Prop} {t t' : Definitions} (hc : Changes P t t') :
    t'.schema = t.schema := by
  induction hc with
  | refl => rfl
  | tail _ hstep ih =>
    rw [← ih]
    cases hstep <;> rfl

/-! ## 2. Steps without slashes -/

/-- No definition within a key has a slash in its name. -/
def Tidy (top : String) (t : Definitions) : Prop :=
  ∀ l f, t.face? l = some f → KeyWithin top f.key → '/' ∉ f.name.toList

/-- The path is not within a key, or no step of it holds a slash. -/
def Neat (top : String) (path : ConfigPath) : Prop :=
  KeyWithin top path.key → ∀ s ∈ path.steps, '/' ∉ s.literal.toList

theorem Tidy.grow {top : String} {t : Definitions} (ht : Tidy top t) {done : ConfigPath}
    {step : Step} {loc : Location} {siblings : List Definition}
    (room : Definition.below? t.roots loc = some siblings)
    (hstep : KeyWithin top (done.snoc step).key → '/' ∉ step.literal.toList) :
    Tidy top (t.grow done step loc siblings.length) := by
  intro l f hf hwithin
  rw [face?_grow room] at hf
  split at hf
  case isTrue =>
    obtain rfl := Option.some.inj hf
    rw [Definition.key_bound] at hwithin
    rw [Definition.name_bound]
    exact hstep hwithin
  case isFalse => exact ht l f hf hwithin

theorem Tidy.change {top : String} {P : ConfigPath → Prop} {t t' : Definitions}
    (ht : Tidy top t) (hP : ∀ p, P p → Neat top p) (hc : Change P t t') : Tidy top t' := by
  refine hc.forall_face ?_ (fun _ _ _ h => h) ht
  intro path done step allowed onWay _ hwithin
  rw [Definition.key_bound] at hwithin
  rw [Definition.name_bound]
  have hpath := ConfigPath.keyWithin_of_prefix (ConfigPath.isRoot_snoc done step) onWay
  exact hP path allowed (hwithin.trans hpath) step (onWay.subset (by simp))

theorem Tidy.changes {top : String} {P : ConfigPath → Prop} {t t' : Definitions}
    (ht : Tidy top t) (hP : ∀ p, P p → Neat top p) (hc : Changes P t t') : Tidy top t' := by
  induction hc with
  | refl => exact ht
  | tail _ hstep ih => exact ih.change hP hstep

section Child

variable {top : String} {t : Definitions} (h : Indexed t) (ht : Tidy top t)
include h ht

/-- Where names have no slash, the place of a longer key is that of a child. -/
theorem Tidy.index_child {loc : Location} {d : Definition} (hd : t.at? loc = some d)
    (hwithin : KeyWithin top d.key) {name : String} (hname : '/' ∉ name.toList) {l : Location} :
    t.index.get? (d.key ++ "/" ++ name) = some l ↔
      ∃ i c, l = loc ++ [i] ∧ d.children[i]? = some c ∧ c.name = name := by
  constructor
  · intro hl
    obtain ⟨x, hx, hxkey⟩ := h.at?_of_index hl
    have hslash : '/' ∉ x.name.toList :=
      ht l x.bare (face?_of_at? hx) (by
        rw [Definition.bare_key, hxkey]
        exact hwithin.trans (.child _ _))
    induction l using List.reverseRecOn with
    | nil => cases hx
    | append_singleton m i =>
      cases m with
      | nil =>
        -- a root has its name as its key, which has no slash
        have hroot := h.root (i := i) (face?_of_at? hx)
        have := Definition.key_of_root (d := x) hroot
        rw [hxkey] at this
        rw [← this] at hslash
        simp at hslash
      | cons j rest =>
        have hsome : (t.at? (j :: rest)).isSome :=
          Definition.at?_isSome_of_append (m := [i]) (by simp)
            (Option.isSome_iff_exists.mpr ⟨x, hx⟩)
        obtain ⟨p, hp⟩ := Option.isSome_iff_exists.mp hsome
        have hkey := h.key_child (face?_of_at? hp) (face?_of_at? hx)
        rw [Definition.bare_key, Definition.bare_key, Definition.bare_name, hxkey] at hkey
        obtain ⟨hdp, hnx⟩ := Text.slash_cancel hname hslash hkey
        have hloc : loc = j :: rest := by
          have h1 := h.index_of_at? hd
          have h2 := h.index_of_at? hp
          rw [hdp] at h1
          exact Option.some.inj (h1.symm.trans h2)
        subst hloc
        obtain rfl := Option.some.inj (hd.symm.trans hp)
        rw [at?, Definition.at?_child hd] at hx
        exact ⟨i, x, rfl, hx, hnx.symm⟩
  · rintro ⟨i, c, rfl, hc, rfl⟩
    obtain ⟨hat, hroot, hkey, -⟩ := h.at?_child hd hc
    have := h.index_of_at? hat
    rwa [Definition.key_of_child hroot, hkey] at this

/-- Where names have no slash, the definition of a longer key is the child of that name. -/
theorem Tidy.get?_child {k : String} (hwithin : KeyWithin top k) {d : Definition}
    (hd : t.get? k = some d) {name : String} (hname : '/' ∉ name.toList) :
    t.get? (k ++ "/" ++ name) = d.child? name := by
  obtain ⟨loc, -, hat, rfl⟩ := h.get?_eq_some.mp hd
  have hindex := fun l => ht.index_child h hat hwithin hname (l := l)
  cases hc : d.child? name with
  | none =>
    rw [h.get?_eq_none]
    cases hi : t.index.get? (d.key ++ "/" ++ name) with
    | none => rfl
    | some l =>
      obtain ⟨i, c, -, hchild, hcname⟩ := (hindex l).mp hi
      have := List.find?_eq_none.mp hc c (List.mem_of_getElem? hchild)
      simp [hcname] at this
  | some c =>
    have hmem := List.mem_of_find?_eq_some hc
    have hcname : c.name = name := by simpa using List.find?_some hc
    obtain ⟨i, hi⟩ := List.getElem?_of_mem hmem
    obtain ⟨hatc, hroot, hkey, -⟩ := h.at?_child hat hi
    have := h.get?_of_at? hatc
    rwa [Definition.key_of_child hroot, hkey, hcname] at this

end Child

end Definitions

end RouterConfig
