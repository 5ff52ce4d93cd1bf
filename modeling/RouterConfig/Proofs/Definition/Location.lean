/-
RouterConfig.Proofs.Definition.Location — what stands at a place of a tree
before and after an edit of the tree.

A place shows a definition with all below it, so an edit deep in a tree
changes what stands at every place above. The `face?` of a place leaves
out what is below, and an edit then changes the places it is about and no
other: `face?_appendAt_old`, `at?_appendAt_new`, `face?_modifyAt`. Whole
definitions are compared only at places that are not above the edit
(`at?_appendAt_of_not_prefix`, `at?_modifyAt_of_not_prefix`).
-/
import Mathlib.Data.List.Basic
import RouterConfig.Definition.Tree

namespace RouterConfig

namespace Definition

/-! ## 1. Faces -/

/-- The definition without those below it. -/
def bare (d : Definition) : Definition := { d with children := [] }

@[simp] theorem bare_key (d : Definition) : d.bare.key = d.key := rfl
@[simp] theorem bare_name (d : Definition) : d.bare.name = d.name := rfl
@[simp] theorem bare_parent (d : Definition) : d.bare.parent = d.parent := rfl
@[simp] theorem bare_value (d : Definition) : d.bare.value = d.value := rfl
@[simp] theorem bare_comment (d : Definition) : d.bare.comment = d.comment := rfl
@[simp] theorem bare_node (d : Definition) : d.bare.node = d.node := rfl
@[simp] theorem bare_parentNode (d : Definition) : d.bare.parentNode = d.parentNode := rfl

/-- The definition at a place, without those below it. -/
def face? (roots : List Definition) (l : Location) : Option Definition := (at? roots l).map bare

/-! ## 2. Places -/

@[simp] theorem at?_nil (roots : List Definition) : at? roots [] = none := rfl

@[simp] theorem below?_nil (roots : List Definition) : below? roots [] = some roots := rfl

theorem at?_singleton (roots : List Definition) (i : Nat) : at? roots [i] = roots[i]? := rfl

theorem at?_cons (roots : List Definition) (i : Nat) {l : Location} (h : l ≠ []) :
    at? roots (i :: l) = roots[i]?.bind fun d => at? d.children l := by
  cases l with
  | nil => exact absurd rfl h
  | cons j rest => rfl

theorem below?_cons (roots : List Definition) (i : Nat) (l : Location) :
    below? roots (i :: l) = roots[i]?.bind fun d => below? d.children l := rfl

/-- Below a place that is not the empty one stand the children of its definition. -/
theorem below?_eq_map_at? (roots : List Definition) {l : Location} (h : l ≠ []) :
    below? roots l = (at? roots l).map (·.children) := by
  induction l generalizing roots with
  | nil => exact absurd rfl h
  | cons i rest ih =>
    cases rest with
    | nil => cases hr : roots[i]? <;> simp [below?, at?, hr]
    | cons j more =>
      rw [below?_cons, at?_cons _ _ (by simp)]
      cases hr : roots[i]? with
      | none => rfl
      | some d => exact ih d.children (by simp)

/-- A place reached through another is a place below it. -/
theorem at?_append (roots : List Definition) (l : Location) {m : Location} (h : m ≠ []) :
    at? roots (l ++ m) = (below? roots l).bind (at? · m) := by
  induction l generalizing roots with
  | nil => rfl
  | cons i rest ih =>
    rw [List.cons_append, at?_cons _ _ (by simp [h]), below?_cons]
    cases hr : roots[i]? with
    | none => rfl
    | some d => exact ih d.children

theorem at?_concat (roots : List Definition) (l : Location) (i : Nat) :
    at? roots (l ++ [i]) = (below? roots l).bind (·[i]?) :=
  at?_append roots l (by simp)

theorem ne_nil_of_at? {roots : List Definition} {l : Location} {d : Definition}
    (h : at? roots l = some d) : l ≠ [] := by
  rintro rfl
  cases h

/-- What is below a definition of the tree is a place of the tree. -/
theorem at?_append_of_at? {roots : List Definition} {l m : Location} {d : Definition}
    (hd : at? roots l = some d) (hm : m ≠ []) : at? roots (l ++ m) = at? d.children m := by
  rw [at?_append roots l hm, below?_eq_map_at? roots (ne_nil_of_at? hd), hd]
  rfl

/-- Where a definition stands, one stands at every place on the way. -/
theorem at?_isSome_of_append {roots : List Definition} {l m : Location} (hl : l ≠ [])
    (h : (at? roots (l ++ m)).isSome) : (at? roots l).isSome := by
  cases m with
  | nil => simpa using h
  | cons i rest =>
    rw [at?_append roots l (by simp), below?_eq_map_at? roots hl] at h
    cases hd : at? roots l with
    | none => simp [hd] at h
    | some d => rfl

/-- Where there is room below a place, a definition stands at every place on the way. -/
theorem at?_isSome_of_room {roots siblings : List Definition} {l loc : Location} (hl : l ≠ [])
    (hp : l <+: loc) (room : below? roots loc = some siblings) : (at? roots l).isSome := by
  obtain ⟨m, rfl⟩ := hp
  refine at?_isSome_of_append hl (m := m) ?_
  rw [below?_eq_map_at? _ (by simp [hl])] at room
  obtain ⟨d, hd, -⟩ := Option.map_eq_some_iff.mp room
  rw [hd]
  rfl

@[simp] theorem face?_nil (roots : List Definition) : face? roots [] = none := rfl

theorem face?_eq_some {roots : List Definition} {l : Location} {f : Definition} :
    face? roots l = some f ↔ ∃ d, at? roots l = some d ∧ d.bare = f := by
  simp [face?]

theorem face?_of_at? {roots : List Definition} {l : Location} {d : Definition}
    (h : at? roots l = some d) : face? roots l = some d.bare := by
  simp [face?, h]

/-- The children of a definition of the tree stand at the places one further on. -/
theorem at?_child {roots : List Definition} {l : Location} {d : Definition}
    (h : at? roots l = some d) (i : Nat) : at? roots (l ++ [i]) = d.children[i]? :=
  at?_append_of_at? h (by simp)

/-- A definition of the tree has no children exactly when its first place is free. -/
theorem children_eq_nil_iff {roots : List Definition} {l : Location} {d : Definition}
    (h : at? roots l = some d) : d.children = [] ↔ face? roots (l ++ [0]) = none := by
  rw [face?, at?_child h, Option.map_eq_none_iff]
  cases d.children <;> simp

/-- The faces at the next places are those of the children. -/
theorem face?_concat {roots ds : List Definition} {l : Location} (hds : below? roots l = some ds)
    (i : Nat) : face? roots (l ++ [i]) = (ds.map bare)[i]? := by
  rw [face?, at?_concat, hds]
  simp

/-- Where the faces at the next places are the same, so are the children, up to what is below
them. -/
theorem map_bare_congr {roots roots' ds ds' : List Definition} {l : Location}
    (hds : below? roots l = some ds) (hds' : below? roots' l = some ds')
    (h : ∀ i, face? roots (l ++ [i]) = face? roots' (l ++ [i])) : ds.map bare = ds'.map bare := by
  refine List.ext_getElem? ?_
  intro i
  rw [← face?_concat hds, ← face?_concat hds', h i]

/-! ## 3. Appending -/

theorem below?_appendAt (new : Definition) (loc : Location) (roots : List Definition) :
    below? (appendAt new loc roots) loc = (below? roots loc).map (· ++ [new]) := by
  induction loc generalizing roots with
  | nil => rfl
  | cons i rest ih =>
    rw [appendAt, below?_cons, below?_cons, List.getElem?_modify_eq]
    cases hr : roots[i]? with
    | none => rfl
    | some d => exact ih d.children

/-- At and below the place of the new definition stands the new definition. -/
theorem at?_appendAt_new {new : Definition} {loc : Location} {roots siblings : List Definition}
    (h : below? roots loc = some siblings) (m : Location) :
    at? (appendAt new loc roots) (loc ++ siblings.length :: m) = at? [new] (0 :: m) := by
  rw [at?_append _ _ (by simp), below?_appendAt, h]
  cases m with
  | nil => simp [at?]
  | cons j rest => simp [at?]

/-- Every other place shows what it showed before. -/
theorem face?_appendAt_old {new : Definition} {loc l : Location} {roots siblings : List Definition}
    (h : below? roots loc = some siblings) (hl : ¬ (loc ++ [siblings.length]) <+: l) :
    face? (appendAt new loc roots) l = face? roots l := by
  induction loc generalizing roots l with
  | nil =>
    obtain rfl : roots = siblings := by simpa using h
    cases l with
    | nil => rfl
    | cons i more =>
      have hi : i ≠ roots.length := by
        rintro rfl
        exact hl ⟨more, rfl⟩
      have hget : (roots ++ [new])[i]? = roots[i]? := by
        rw [List.getElem?_append]
        split
        · rfl
        · rw [List.getElem?_eq_none (by simp; omega), List.getElem?_eq_none (by omega)]
      cases more with
      | nil => simp [face?, at?, appendAt, hget]
      | cons j rest => simp [face?, at?, appendAt, hget]
  | cons j rest ih =>
    cases l with
    | nil => rfl
    | cons i more =>
      by_cases hij : j = i
      · subst hij
        rw [below?_cons] at h
        cases hr : roots[j]? with
        | none => simp [hr] at h
        | some d =>
          rw [hr] at h
          cases more with
          | nil => simp [face?, at?, appendAt, hr, bare]
          | cons k tail =>
            have := ih h (l := k :: tail) (fun hp => hl (by simpa using hp))
            simpa [face?, at?, appendAt, hr] using this
      · have hget :
            (roots.modify j fun d => { d with children := appendAt new rest d.children })[i]?
            = roots[i]? := List.getElem?_modify_ne _ _ hij
        cases more with
        | nil => simp [face?, at?, appendAt, hget]
        | cons k tail => simp [face?, at?, appendAt, hget]

/-- Places that are neither on the way to the new definition nor below it show the same whole. -/
theorem at?_appendAt_of_not_prefix {new : Definition} {loc l : Location}
    {roots siblings : List Definition} (h : below? roots loc = some siblings)
    (hl : ¬ (loc ++ [siblings.length]) <+: l) (hl' : ¬ l <+: loc) :
    at? (appendAt new loc roots) l = at? roots l := by
  induction loc generalizing roots l with
  | nil =>
    obtain rfl : roots = siblings := by simpa using h
    cases l with
    | nil => rfl
    | cons i more =>
      have hi : i ≠ roots.length := by
        rintro rfl
        exact hl ⟨more, rfl⟩
      have hget : (roots ++ [new])[i]? = roots[i]? := by
        rw [List.getElem?_append]
        split
        · rfl
        · rw [List.getElem?_eq_none (by simp; omega), List.getElem?_eq_none (by omega)]
      cases more <;> simp [at?, appendAt, hget]
  | cons j rest ih =>
    cases l with
    | nil => rfl
    | cons i more =>
      by_cases hij : j = i
      · subst hij
        rw [below?_cons] at h
        cases hr : roots[j]? with
        | none => simp [hr] at h
        | some d =>
          rw [hr] at h
          cases more with
          | nil => exact absurd ⟨rest, rfl⟩ hl'
          | cons k tail =>
            have := ih h (l := k :: tail) (fun hp => hl (by simpa using hp))
              (fun hp => hl' (by simpa using hp))
            simpa [at?, appendAt, hr] using this
      · have hget :
            (roots.modify j fun d => { d with children := appendAt new rest d.children })[i]?
            = roots[i]? := List.getElem?_modify_ne _ _ hij
        cases more <;> simp [at?, appendAt, hget]

/-! ## 4. Changing one definition -/

theorem modifyAt_cons (f : Definition → Definition) (i : Nat) {l : Location} (h : l ≠ [])
    (roots : List Definition) :
    modifyAt f (i :: l) roots
      = roots.modify i fun d => { d with children := modifyAt f l d.children } := by
  cases l with
  | nil => exact absurd rfl h
  | cons j rest => rfl

theorem at?_modifyAt_self (f : Definition → Definition) (l : Location) (roots : List Definition) :
    at? (modifyAt f l roots) l = (at? roots l).map f := by
  induction l generalizing roots with
  | nil => rfl
  | cons i rest ih =>
    cases rest with
    | nil => simp [at?, modifyAt]
    | cons j more =>
      rw [modifyAt_cons _ _ (by simp), at?_cons _ _ (by simp), at?_cons _ _ (by simp),
        List.getElem?_modify_eq]
      cases hr : roots[i]? with
      | none => rfl
      | some d => exact ih d.children

/-- A place that is not at or below the changed one shows what it showed before. -/
theorem face?_modifyAt_of_not_prefix {f : Definition → Definition} {l l' : Location}
    {roots : List Definition} (h : ¬ l <+: l') :
    face? (modifyAt f l roots) l' = face? roots l' := by
  induction l generalizing roots l' with
  | nil => exact absurd List.nil_prefix h
  | cons i rest ih =>
    cases l' with
    | nil => rfl
    | cons j more =>
      by_cases hij : i = j
      · subst hij
        cases rest with
        | nil => exact absurd ⟨more, rfl⟩ h
        | cons k tail =>
          rw [modifyAt_cons _ _ (by simp)]
          cases hr : roots[i]? with
          | none => cases more <;> simp [face?, at?, hr]
          | some d =>
            cases more with
            | nil => simp [face?, at?, hr, bare]
            | cons m rest' =>
              have hrest : ¬ (k :: tail) <+: m :: rest' := fun hp => h (by simpa using hp)
              have hsame := @ih _ d.children hrest
              simpa [face?, at?, hr] using hsame
      · have hget : ∀ g : Definition → Definition, (roots.modify i g)[j]? = roots[j]? := by
          intro g
          exact List.getElem?_modify_ne _ _ hij
        cases rest <;> cases more <;> simp [face?, at?, modifyAt, hget]

/-- A change that keeps the children changes what one place shows. -/
theorem face?_modifyAt {f : Definition → Definition} (hf : ∀ d, (f d).children = d.children)
    (l l' : Location) (roots : List Definition) :
    face? (modifyAt f l roots) l'
      = if l' = l then (at? roots l).map fun d => (f d).bare else face? roots l' := by
  by_cases hp : l <+: l'
  · obtain ⟨m, rfl⟩ := hp
    cases m with
    | nil => simp [face?, at?_modifyAt_self, Function.comp_def]
    | cons i rest =>
      have hne : l ++ i :: rest ≠ l := by simp
      rw [if_neg hne]
      cases l with
      | nil => rfl
      | cons j more =>
        rw [face?, face?, at?_append _ _ (by simp), at?_append _ _ (by simp),
          below?_eq_map_at? _ (by simp), below?_eq_map_at? _ (by simp), at?_modifyAt_self]
        cases hd : at? roots (j :: more) with
        | none => rfl
        | some d => simp [hf]
  · have hne : l' ≠ l := by
      rintro rfl
      exact hp (List.prefix_refl _)
    rw [if_neg hne, face?_modifyAt_of_not_prefix hp]

/-- A change that keeps the children changes the whole of what stands at its place and above. -/
theorem at?_modifyAt_of_not_prefix {f : Definition → Definition}
    (hf : ∀ d, (f d).children = d.children) {l l' : Location} (h : ¬ l' <+: l)
    (roots : List Definition) : at? (modifyAt f l roots) l' = at? roots l' := by
  induction l generalizing roots l' with
  | nil => rfl
  | cons i rest ih =>
    cases l' with
    | nil => exact absurd List.nil_prefix h
    | cons j more =>
      by_cases hij : i = j
      · subst hij
        cases more with
        | nil => exact absurd ⟨rest, rfl⟩ h
        | cons k tail =>
          rw [at?_cons _ _ (by simp), at?_cons _ _ (by simp)]
          cases rest with
          | nil =>
            rw [modifyAt, List.getElem?_modify_eq]
            cases hr : roots[i]? with
            | none => rfl
            | some d => simp [hf]
          | cons m rest' =>
            rw [modifyAt_cons _ _ (by simp), List.getElem?_modify_eq]
            cases hr : roots[i]? with
            | none => rfl
            | some d =>
              have hrest : ¬ (k :: tail) <+: m :: rest' := fun hp => h (by simpa using hp)
              exact ih hrest d.children
      · have hget : ∀ g : Definition → Definition, (roots.modify i g)[j]? = roots[j]? := by
          intro g
          exact List.getElem?_modify_ne _ _ hij
        cases rest <;> cases more <;> simp [at?, modifyAt, hget]

/-- Appending below a place that is not the empty one is a change of its definition. -/
theorem appendAt_eq_modifyAt (new : Definition) {loc : Location} (h : loc ≠ [])
    (roots : List Definition) :
    appendAt new loc roots
      = modifyAt (fun d => { d with children := d.children ++ [new] }) loc roots := by
  induction loc generalizing roots with
  | nil => exact absurd rfl h
  | cons i rest ih =>
    cases rest with
    | nil => rfl
    | cons j more =>
      rw [modifyAt_cons _ _ (by simp), appendAt]
      congr 1
      funext d
      rw [ih (by simp)]

end Definition

end RouterConfig
