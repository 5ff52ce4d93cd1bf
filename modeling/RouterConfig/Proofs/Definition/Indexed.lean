/-
RouterConfig.Proofs.Definition.Indexed — a tree and its index agree, and
every change of a tree keeps it so.

`Indexed` says it for one tree: the index leads to a place exactly when
the definition there has the key, a definition stands below the one its
parent path names, and what has children has no value. `Change` lists all
that an edit can do to a tree in one go: put an empty definition below
another, set a value where nothing is below, set a comment. Each keeps
`Indexed` (`Indexed.change`), so every sequence of them does.
-/
import Mathlib.Logic.Relation
import RouterConfig.Proofs.Definition.Walk
import RouterConfig.Proofs.Path.Key

namespace RouterConfig

namespace Definitions

/-! ## 1. The agreement -/

/-- The definition at a place, without those below it. -/
def face? (t : Definitions) (l : Location) : Option Definition := Definition.face? t.roots l

theorem face?_of_at? {t : Definitions} {l : Location} {d : Definition} (h : t.at? l = some d) :
    t.face? l = some d.bare := Definition.face?_of_at? h

theorem face?_eq_some {t : Definitions} {l : Location} {f : Definition} :
    t.face? l = some f ↔ ∃ d, t.at? l = some d ∧ d.bare = f := Definition.face?_eq_some

theorem ne_nil_of_face? {t : Definitions} {l : Location} {f : Definition}
    (h : t.face? l = some f) : l ≠ [] := by
  rintro rfl
  cases h

/-- The tree and its indexes agree. -/
structure Indexed (t : Definitions) : Prop where
  /-- A key leads to a place exactly when the definition there has the key. -/
  index_iff : ∀ {k l}, t.index.get? k = some l ↔ ∃ f, t.face? l = some f ∧ f.key = k
  /-- A root has no parent. -/
  root : ∀ {i f}, t.face? [i] = some f → f.parent.isRoot = true
  /-- Any other definition stands below the one that its parent path names, which has no value. -/
  child : ∀ {l i p c}, t.face? l = some p → t.face? (l ++ [i]) = some c →
    c.parent.isRoot = false ∧ c.parent.key = p.key ∧ p.value = .empty
  /-- The grammar node of a key is that of its definition. -/
  binding : ∀ {k}, t.binding? k = ((t.index.get? k).bind t.face?).bind (·.node)

/-- The empty tree agrees with its index. -/
theorem indexed_new (schema : SchemaNode) (policy : DuplicatePolicy) :
    Indexed (new schema policy) := by
  have hface : ∀ l, (new schema policy).face? l = none := by
    intro l
    cases l with
    | nil => rfl
    | cons i rest => cases rest <;> rfl
  constructor
  · intro k l
    have hindex : (new schema policy).index.get? k = none := rfl
    simp [hface, hindex]
  · intro i f h
    simp [hface] at h
  · intro l i p c h
    simp [hface] at h
  · intro k
    rfl

namespace Indexed

variable {t : Definitions} (h : Indexed t)
include h

/-- A definition is indexed at its place. -/
theorem index_of_at? {l : Location} {d : Definition} (hd : t.at? l = some d) :
    t.index.get? d.key = some l :=
  h.index_iff.mpr ⟨d.bare, face?_of_at? hd, rfl⟩

/-- An indexed key leads to a definition of that key. -/
theorem at?_of_index {k : String} {l : Location} (hk : t.index.get? k = some l) :
    ∃ d, t.at? l = some d ∧ d.key = k := by
  obtain ⟨f, hf, rfl⟩ := h.index_iff.mp hk
  obtain ⟨d, hd, rfl⟩ := face?_eq_some.mp hf
  exact ⟨d, hd, rfl⟩

theorem get?_of_at? {l : Location} {d : Definition} (hd : t.at? l = some d) :
    t.get? d.key = some d := by
  simp [get?, h.index_of_at? hd, hd]

theorem get?_of_index {k : String} {l : Location} (hk : t.index.get? k = some l) :
    ∃ d, t.get? k = some d ∧ t.at? l = some d ∧ d.key = k := by
  obtain ⟨d, hd, rfl⟩ := h.at?_of_index hk
  exact ⟨d, h.get?_of_at? hd, hd, rfl⟩

/-- A key finds the one definition of the tree that has it. -/
theorem get?_eq_some {k : String} {d : Definition} :
    t.get? k = some d ↔ ∃ l, t.index.get? k = some l ∧ t.at? l = some d ∧ d.key = k := by
  constructor
  · intro hget
    obtain ⟨l, hl, hd⟩ := Option.bind_eq_some_iff.mp hget
    obtain ⟨d', hd', hkey⟩ := h.at?_of_index hl
    obtain rfl : d = d' := Option.some.inj (hd.symm.trans hd')
    exact ⟨l, hl, hd, hkey⟩
  · rintro ⟨l, -, hd, rfl⟩
    exact h.get?_of_at? hd

/-- A look-up gives a definition of the key that was looked up. -/
theorem key_of_get? {k : String} {d : Definition} (hd : t.get? k = some d) : d.key = k := by
  obtain ⟨l, -, -, hk⟩ := h.get?_eq_some.mp hd
  exact hk

theorem get?_eq_none {k : String} : t.get? k = none ↔ t.index.get? k = none := by
  constructor
  · intro hget
    cases hk : t.index.get? k with
    | none => rfl
    | some l =>
      obtain ⟨d, hd, -⟩ := h.get?_of_index hk
      rw [hget] at hd
      cases hd
  · intro hk
    simp [get?, hk]

theorem contains_eq (k : String) : t.contains k = (t.get? k).isSome := by
  rw [contains, Dictionary.contains]
  cases hk : t.index.get? k with
  | none => simp [get?, hk]
  | some l =>
    obtain ⟨d, hd, -⟩ := h.get?_of_index hk
    simp [hd]

theorem contains_of_get? {k : String} {d : Definition} (hd : t.get? k = some d) :
    t.contains k = true := by
  rw [h.contains_eq, hd]
  rfl

theorem contains_eq_false {k : String} (hk : t.get? k = none) : t.contains k = false := by
  rw [h.contains_eq, hk]
  rfl

/-- The walk lists the definitions that keys find. -/
theorem mem_walk {d : Definition} : d ∈ t.walk ↔ t.get? d.key = some d := by
  rw [walk, Definition.mem_walkAll]
  constructor
  · rintro ⟨l, hl⟩
    exact h.get?_of_at? hl
  · intro hd
    obtain ⟨l, -, hl, -⟩ := h.get?_eq_some.mp hd
    exact ⟨l, hl⟩

/-- No two definitions have one key. -/
theorem nodup_keys : (t.walk.map (·.key)).Nodup :=
  Definition.nodup_keys_of_index t.index.get? fun _ _ hd => h.index_of_at? hd

/-- A child stands at the place behind that of its parent, and its parent path leads to
the parent. -/
theorem at?_child {l : Location} {i : Nat} {p c : Definition} (hp : t.at? l = some p)
    (hc : p.children[i]? = some c) :
    t.at? (l ++ [i]) = some c ∧ c.parent.isRoot = false ∧ c.parent.key = p.key ∧
      p.value = .empty := by
  have hat : t.at? (l ++ [i]) = some c := by
    rw [at?, Definition.at?_child hp, hc]
  obtain ⟨hroot, hkey, hvalue⟩ := h.child (face?_of_at? hp) (face?_of_at? hat)
  exact ⟨hat, hroot, hkey, hvalue⟩

/-- A child continues the key of its parent by its name. -/
theorem key_child {l : Location} {i : Nat} {p c : Definition} (hp : t.face? l = some p)
    (hc : t.face? (l ++ [i]) = some c) : c.key = p.key ++ "/" ++ c.name := by
  obtain ⟨hroot, hkey, -⟩ := h.child hp hc
  rw [Definition.key_of_child hroot, hkey]

/-- Below a definition stand the keys within its key. -/
theorem keyWithin_of_append {l m : Location} {a b : Definition} (ha : t.face? l = some a)
    (hb : t.face? (l ++ m) = some b) : KeyWithin a.key b.key := by
  induction m using List.reverseRecOn generalizing b with
  | nil =>
    rw [List.append_nil] at hb
    obtain rfl : a = b := Option.some.inj (ha.symm.trans hb)
    exact KeyWithin.refl _
  | append_singleton m i ih =>
    have hl := ne_nil_of_face? ha
    rw [← List.append_assoc] at hb
    have hsome : (t.at? (l ++ m)).isSome := by
      obtain ⟨d, hd, -⟩ := face?_eq_some.mp hb
      refine Definition.at?_isSome_of_append (m := [i]) (by simp [hl]) ?_
      exact Option.isSome_iff_exists.mpr ⟨d, hd⟩
    obtain ⟨p, hp⟩ := Option.isSome_iff_exists.mp hsome
    have hface := face?_of_at? hp
    rw [h.key_child hface hb]
    exact (ih hface).trans (KeyWithin.child _ _)

/-- The children of a definition of the tree name it as their parent, and it has no value. -/
theorem child_of_mem {p c : Definition} (hp : p ∈ t.walk) (hc : c ∈ p.children) :
    c.parent.isRoot = false ∧ c.parent.key = p.key ∧ p.value = .empty := by
  obtain ⟨l, hl⟩ := Definition.mem_walkAll.mp hp
  obtain ⟨i, hi⟩ := List.getElem?_of_mem hc
  exact (h.at?_child hl hi).2

theorem mem_roots {d : Definition} (hd : d ∈ t.walk) :
    d ∈ t.roots ↔ d.parent.isRoot = true := by
  obtain ⟨l, hl⟩ := Definition.mem_walkAll.mp hd
  constructor
  · intro hmem
    obtain ⟨i, hi⟩ := List.getElem?_of_mem hmem
    exact h.root (i := i) (f := d.bare) (face?_of_at? hi)
  · intro hroot
    induction l using List.reverseRecOn with
    | nil => cases hl
    | append_singleton m i =>
      cases m with
      | nil => exact List.mem_of_getElem? hl
      | cons j rest =>
        -- a place further down belongs to a child, which has a parent path
        have hsome : (t.at? (j :: rest)).isSome :=
          Definition.at?_isSome_of_append (m := [i]) (by simp)
            (Option.isSome_iff_exists.mpr ⟨d, hl⟩)
        obtain ⟨p, hp⟩ := Option.isSome_iff_exists.mp hsome
        have := (h.child (face?_of_at? (t := t) hp) (face?_of_at? hl)).1
        rw [Definition.bare_parent, hroot] at this
        cases this

/-- The walk meets as roots the roots. -/
theorem filter_roots : t.walk.filter (·.parent.isRoot) = t.roots :=
  Definition.filter_eq_of_sublist (Definition.sublist_walkAll t.roots) (h.nodup_keys.of_map _)
    fun _ hd => (h.mem_roots hd).symm

/-- The walk meets below a key the children of its definition. -/
theorem filter_children {p : Definition} (hp : p ∈ t.walk) :
    t.walk.filter (fun c => !c.parent.isRoot && c.parent.key == p.key) = p.children := by
  refine Definition.filter_eq_of_sublist (Definition.children_sublist_walkAll hp)
    (h.nodup_keys.of_map _) ?_
  intro c hc
  rw [Bool.and_eq_true, Bool.not_eq_true', beq_iff_eq]
  constructor
  · rintro ⟨hroot, hkey⟩
    rcases Definition.mem_or_child_of_mem_walkAll hc with hmem | ⟨q, hq, hmem⟩
    · rw [(h.mem_roots hc).mp hmem] at hroot
      cases hroot
    · have hqkey := (h.child_of_mem hq hmem).2.1
      have hpq : p = q := List.inj_on_of_nodup_map h.nodup_keys hp hq (hkey.symm.trans hqkey)
      rwa [hpq]
  · intro hmem
    exact ⟨(h.child_of_mem hp hmem).1, (h.child_of_mem hp hmem).2.1⟩

/-- A tree has what its definitions stand below. -/
theorem contains_parent {x : Definition} (hx : x ∈ t.walk) (hroot : x.parent.isRoot = false) :
    t.contains x.parent.key = true := by
  rcases Definition.mem_or_child_of_mem_walkAll hx with hmem | ⟨p, hp, hmem⟩
  · rw [(h.mem_roots hx).mp hmem] at hroot
    cases hroot
  · rw [(h.child_of_mem hp hmem).2.1, h.contains_eq, h.mem_walk.mp hp]
    rfl

end Indexed

/-! ## 2. What a change is -/

/-- The place that belongs to a path: the empty place for the root, else the place of its key. -/
def Stands (t : Definitions) (path : ConfigPath) (loc : Location) : Prop :=
  if path.isRoot then loc = [] else t.index.get? path.key = some loc

section Stands

variable {t : Definitions} {path : ConfigPath} {loc : Location}

theorem Stands.eq_nil (hs : t.Stands path loc) (hroot : path.isRoot = true) : loc = [] := by
  unfold Stands at hs
  simpa [hroot] using hs

theorem stands_nil (t : Definitions) (hroot : path.isRoot = true) : t.Stands path [] := by
  unfold Stands
  simp [hroot]

theorem Stands.index (hs : t.Stands path loc) (hroot : path.isRoot = false) :
    t.index.get? path.key = some loc := by
  unfold Stands at hs
  simpa [hroot] using hs

theorem stands_of_index (hroot : path.isRoot = false)
    (h : t.index.get? path.key = some loc) : t.Stands path loc := by
  unfold Stands
  simpa [hroot] using h

theorem Stands.isRoot_eq_false (hs : t.Stands path loc) (hloc : loc ≠ []) :
    path.isRoot = false :=
  Bool.eq_false_iff.mpr fun hroot => hloc (hs.eq_nil hroot)

/-- A path has one place. -/
theorem Stands.unique {loc' : Location} (hs : t.Stands path loc) (hs' : t.Stands path loc') :
    loc = loc' := by
  cases hroot : path.isRoot with
  | true => rw [hs.eq_nil hroot, hs'.eq_nil hroot]
  | false => exact Option.some.inj ((hs.index hroot).symm.trans (hs'.index hroot))

end Stands

/-- The tree with an empty definition for one more step, at position `i` below a place. -/
def grow (t : Definitions) (done : ConfigPath) (step : Step) (loc : Location) (i : Nat) :
    Definitions :=
  let new := Definition.bound t.schema done step.segment
  { t with roots := Definition.appendAt new loc t.roots }.register
    (done.snoc step).key (loc ++ [i]) new.node

/-- The tree with the definition at a place changed. -/
def relabel (t : Definitions) (loc : Location) (f : Definition → Definition) : Definitions :=
  { t with roots := Definition.modifyAt f loc t.roots }

/-- One change of a tree for a path that `P` allows. -/
inductive Change (P : ConfigPath → Prop) : Definitions → Definitions → Prop
  /-- A definition that is missing on the way down the path is put last below the one above it. -/
  | grow {t : Definitions} {path done : ConfigPath} {step : Step} {loc : Location}
      {siblings : List Definition} (allowed : P path)
      (onWay : (done.snoc step).steps <+: path.steps) (stands : t.Stands done loc)
      (room : Definition.below? t.roots loc = some siblings)
      (container : ∀ f, t.face? loc = some f → f.value = .empty)
      (vacant : t.index.get? (done.snoc step).key = none) :
      Change P t (t.grow done step loc siblings.length)
  /-- The definition of the path, which has nothing below it, gets a value. -/
  | value {t : Definitions} {path : ConfigPath} {loc : Location} (value : Value)
      (allowed : P path) (stands : t.index.get? path.key = some loc)
      (childless : t.face? (loc ++ [0]) = none) :
      Change P t (t.relabel loc fun d => { d with value })
  /-- The definition of the path gets a comment. -/
  | comment {t : Definitions} {path : ConfigPath} {loc : Location} (comment : String)
      (allowed : P path) (stands : t.index.get? path.key = some loc) :
      Change P t (t.relabel loc fun d => { d with comment := some comment })

/-- Changes one after the other. -/
abbrev Changes (P : ConfigPath → Prop) : Definitions → Definitions → Prop :=
  Relation.ReflTransGen (Change P)

theorem Change.mono {P Q : ConfigPath → Prop} (hPQ : ∀ p, P p → Q p) {t t' : Definitions}
    (h : Change P t t') : Change Q t t' := by
  cases h with
  | grow allowed onWay stands room container vacant =>
    exact .grow (hPQ _ allowed) onWay stands room container vacant
  | value v allowed stands childless => exact .value v (hPQ _ allowed) stands childless
  | comment c allowed stands => exact .comment c (hPQ _ allowed) stands

theorem Changes.mono {P Q : ConfigPath → Prop} (hPQ : ∀ p, P p → Q p) {t t' : Definitions}
    (h : Changes P t t') : Changes Q t t' :=
  Relation.ReflTransGen.mono (fun _ _ => Change.mono hPQ) _ _ h

/-! ## 3. What a change leaves -/

theorem index_register (t : Definitions) (key : String) (loc : Location)
    (node : Option SchemaNode) (k : String) :
    (t.register key loc node).index.get? k = if key = k then some loc else t.index.get? k :=
  Dictionary.get?_insert _ _ _ _

theorem binding_register (t : Definitions) (key : String) (loc : Location)
    (node : Option SchemaNode) (k : String) :
    (t.register key loc node).binding? k
      = if key = k then node.or (t.binding? k) else t.binding? k := by
  cases node with
  | none => simp [register, binding?]
  | some node => simp [register, binding?, Dictionary.get?_insert]

section Grow

variable {t : Definitions} {done : ConfigPath} {step : Step} {loc : Location}
  {siblings : List Definition} (room : Definition.below? t.roots loc = some siblings)

/-- No definition stands where the new one is put. -/
theorem face?_eq_none_of_room (room : Definition.below? t.roots loc = some siblings)
    (m : Location) : t.face? (loc ++ siblings.length :: m) = none := by
  have : Definition.at? siblings (siblings.length :: m) = none := by
    cases m <;> simp [Definition.at?]
  rw [face?, Definition.face?, Definition.at?_append _ _ (by simp), room]
  simp [this]

theorem face?_grow (room : Definition.below? t.roots loc = some siblings) (l : Location) :
    (t.grow done step loc siblings.length).face? l
      = if l = loc ++ [siblings.length] then some (Definition.bound t.schema done step.segment)
        else t.face? l := by
  by_cases hp : (loc ++ [siblings.length]) <+: l
  · obtain ⟨m, rfl⟩ := hp
    rw [List.append_assoc, List.singleton_append, face?_eq_none_of_room room]
    show Definition.face? (Definition.appendAt _ loc t.roots) _ = _
    rw [Definition.face?, Definition.at?_appendAt_new room]
    cases m with
    | nil => simp [Definition.at?, Definition.bound, Definition.bare]
    | cons j rest =>
      have hnone : Definition.at? [] (j :: rest) = none := by
        cases rest <;> simp [Definition.at?]
      simp [Definition.at?, Definition.bound, hnone]
  · have hne : l ≠ loc ++ [siblings.length] := by
      rintro rfl
      exact hp (List.prefix_refl _)
    rw [if_neg hne]
    exact Definition.face?_appendAt_old room hp

theorem index_grow (i : Nat) (k : String) :
    (t.grow done step loc i).index.get? k
      = if (done.snoc step).key = k then some (loc ++ [i]) else t.index.get? k :=
  index_register _ _ _ _ _

theorem binding_grow (i : Nat) (k : String) :
    (t.grow done step loc i).binding? k
      = if (done.snoc step).key = k
        then (Definition.bound t.schema done step.segment).node.or (t.binding? k)
        else t.binding? k :=
  binding_register _ _ _ _ _

end Grow

theorem face?_relabel {t : Definitions} {f : Definition → Definition}
    (hf : ∀ d, (f d).children = d.children) (loc l : Location) :
    (t.relabel loc f).face? l
      = if l = loc then (t.at? loc).map fun d => (f d).bare else t.face? l :=
  Definition.face?_modifyAt hf loc l t.roots

theorem face?_relabel_eq_none {t : Definitions} {f : Definition → Definition}
    (hf : ∀ d, (f d).children = d.children) {loc l : Location} :
    (t.relabel loc f).face? l = none ↔ t.face? l = none := by
  rw [face?_relabel hf]
  split
  case isTrue hl =>
    subst hl
    rw [Option.map_eq_none_iff, face?, Definition.face?, Option.map_eq_none_iff, ← at?]
  case isFalse => exact Iff.rfl

@[simp] theorem index_relabel (t : Definitions) (loc : Location) (f : Definition → Definition) :
    (t.relabel loc f).index = t.index := rfl

@[simp] theorem binding_relabel (t : Definitions) (loc : Location) (f : Definition → Definition)
    (k : String) : (t.relabel loc f).binding? k = t.binding? k := rfl

/-- What holds of the definitions that are made, and does not depend on values and comments, is kept
by a change. -/
theorem Change.forall_face {P : ConfigPath → Prop} {t t' : Definitions} (hc : Change P t t')
    {Q : Definition → Prop}
    (hnew : ∀ {path done step}, P path → (done.snoc step).steps <+: path.steps →
      t.index.get? (done.snoc step).key = none → Q (Definition.bound t.schema done step.segment))
    (hkept : ∀ d value comment, Q d → Q { d with value, comment })
    (ht : ∀ l f, t.face? l = some f → Q f) : ∀ l f, t'.face? l = some f → Q f := by
  cases hc with
  | grow allowed onWay stands room container vacant =>
    intro l f hf
    rw [face?_grow room] at hf
    split at hf
    case isTrue =>
      obtain rfl := Option.some.inj hf
      exact hnew allowed onWay vacant
    case isFalse => exact ht l f hf
  | value v allowed stands childless =>
    intro l f hf
    rw [face?_relabel (by intro d; rfl)] at hf
    split at hf
    case isTrue hl =>
      subst hl
      obtain ⟨d, hd, rfl⟩ := Option.map_eq_some_iff.mp hf
      exact hkept d.bare v d.comment (ht _ _ (face?_of_at? hd))
    case isFalse => exact ht l f hf
  | comment c allowed stands =>
    intro l f hf
    rw [face?_relabel (by intro d; rfl)] at hf
    split at hf
    case isTrue hl =>
      subst hl
      obtain ⟨d, hd, rfl⟩ := Option.map_eq_some_iff.mp hf
      exact hkept d.bare d.value (some c) (ht _ _ (face?_of_at? hd))
    case isFalse => exact ht l f hf

/-! ## 4. Every change keeps the agreement -/

theorem Stands.face? {t : Definitions} (h : Indexed t) {path : ConfigPath} {loc : Location}
    (hs : t.Stands path loc) (hroot : path.isRoot = false) :
    ∃ f, t.face? loc = some f ∧ f.key = path.key :=
  h.index_iff.mp (hs.index hroot)

theorem Stands.ne_nil {t : Definitions} (h : Indexed t) {path : ConfigPath} {loc : Location}
    (hs : t.Stands path loc) (hroot : path.isRoot = false) : loc ≠ [] := by
  obtain ⟨f, hf, -⟩ := hs.face? h hroot
  exact ne_nil_of_face? hf

/-- Below the place of a path there is room. -/
theorem Stands.room {t : Definitions} (h : Indexed t) {path : ConfigPath} {loc : Location}
    (hs : t.Stands path loc) : ∃ siblings, Definition.below? t.roots loc = some siblings := by
  cases hroot : path.isRoot with
  | true =>
    obtain rfl := hs.eq_nil hroot
    exact ⟨_, rfl⟩
  | false =>
    obtain ⟨f, hf, -⟩ := hs.face? h hroot
    obtain ⟨d, hd, -⟩ := face?_eq_some.mp hf
    refine ⟨d.children, ?_⟩
    rw [Definition.below?_eq_map_at? _ (hs.ne_nil h hroot)]
    rw [at?] at hd
    simp [hd]

section Grow

variable {t : Definitions} {done : ConfigPath} {step : Step} {loc : Location}
  {siblings : List Definition}

theorem Indexed.grow_index_iff (h : Indexed t)
    (room : Definition.below? t.roots loc = some siblings)
    (vacant : t.index.get? (done.snoc step).key = none) (k : String) (l : Location) :
    (t.grow done step loc siblings.length).index.get? k = some l ↔
      ∃ f, (t.grow done step loc siblings.length).face? l = some f ∧ f.key = k := by
  have hkey : (Definition.bound t.schema done step.segment).key = (done.snoc step).key :=
    Definition.key_bound t.schema done step
  rw [index_grow, face?_grow room]
  split
  case isTrue hk =>
    -- the key is new, so nothing else has it
    subst hk
    split
    case isTrue hl => simp [hl, hkey]
    case isFalse hl =>
      constructor
      · intro heq
        exact absurd (Option.some.inj heq).symm hl
      · intro hf
        rw [h.index_iff.mpr hf] at vacant
        cases vacant
  case isFalse hk =>
    split
    case isTrue hl =>
      subst hl
      constructor
      · intro hi
        obtain ⟨f, hf, -⟩ := h.index_iff.mp hi
        rw [face?_eq_none_of_room room []] at hf
        cases hf
      · rintro ⟨f, hf, rfl⟩
        obtain rfl := Option.some.inj hf
        exact absurd hkey.symm hk
    case isFalse hl => exact h.index_iff

theorem Indexed.grow_binding (h : Indexed t)
    (room : Definition.below? t.roots loc = some siblings)
    (vacant : t.index.get? (done.snoc step).key = none) (k : String) :
    (t.grow done step loc siblings.length).binding? k
      = (((t.grow done step loc siblings.length).index.get? k).bind
        (t.grow done step loc siblings.length).face?).bind (·.node) := by
  rw [binding_grow, index_grow]
  split
  case isTrue hk =>
    subst hk
    have hnone : t.binding? (done.snoc step).key = none := by
      rw [h.binding, vacant]
      rfl
    simp [hnone, face?_grow room]
  case isFalse hk =>
    rw [h.binding]
    cases hi : t.index.get? k with
    | none => rfl
    | some l =>
      have hl : l ≠ loc ++ [siblings.length] := by
        rintro rfl
        obtain ⟨f, hf, -⟩ := h.index_iff.mp hi
        rw [face?_eq_none_of_room room []] at hf
        cases hf
      simp [face?_grow room, hl]

/-- A new definition below a container keeps the index in agreement. -/
theorem Indexed.grow (h : Indexed t) (stands : t.Stands done loc)
    (room : Definition.below? t.roots loc = some siblings)
    (container : ∀ f, t.face? loc = some f → f.value = .empty)
    (vacant : t.index.get? (done.snoc step).key = none) :
    Indexed (t.grow done step loc siblings.length) := by
  constructor
  case index_iff => exact h.grow_index_iff room vacant _ _
  case root =>
    intro i f hf
    rw [face?_grow room] at hf
    split at hf
    case isTrue hl =>
      -- a new root is made below the root path only
      obtain rfl := Option.some.inj hf
      have hloc : loc = [] := by
        cases loc with
        | nil => rfl
        | cons a rest => simp at hl
      subst hloc
      cases hroot : done.isRoot with
      | true => exact hroot
      | false => exact absurd rfl (stands.ne_nil h hroot)
    case isFalse => exact h.root hf
  case child =>
    intro l i p c hp hc
    rw [face?_grow room] at hp hc
    split at hc
    case isTrue hl =>
      obtain ⟨rfl, -⟩ := List.append_inj' hl rfl
      obtain rfl := Option.some.inj hc
      have hne : l ≠ l ++ [siblings.length] := by simp
      rw [if_neg hne] at hp
      have hroot := stands.isRoot_eq_false (ne_nil_of_face? hp)
      obtain ⟨f, hf, hfkey⟩ := stands.face? h hroot
      obtain rfl := Option.some.inj (hp.symm.trans hf)
      exact ⟨hroot, hfkey.symm, container _ hp⟩
    case isFalse hl =>
      split at hp
      case isTrue hp' =>
        subst hp'
        rw [List.append_assoc, List.singleton_append, face?_eq_none_of_room room] at hc
        cases hc
      case isFalse => exact h.child hp hc
  case binding => exact h.grow_binding room vacant _

end Grow

/-- After a relabelling stands at every place what stood there, up to what the index does not know
of. -/
theorem face?_relabel_cases (t : Definitions) (loc : Location) {f : Definition → Definition}
    (hchildren : ∀ d, (f d).children = d.children) (hparent : ∀ d, (f d).parent = d.parent)
    (hsegment : ∀ d, (f d).segment = d.segment) (hnode : ∀ d, (f d).node = d.node)
    (l : Location) :
    ((t.relabel loc f).face? l = none ∧ t.face? l = none) ∨
      ∃ d, t.at? l = some d ∧ ∃ e, (t.relabel loc f).face? l = some e ∧ e.key = d.key ∧
        e.parent = d.parent ∧ e.node = d.node ∧ (e.value = d.value ∨ l = loc) := by
  have hkey : ∀ d, (f d).key = d.key := by
    intro d
    simp [Definition.key, Definition.fullPath, hparent, hsegment]
  rw [face?_relabel hchildren]
  cases hd : t.at? l with
  | none =>
    left
    have hnone : t.face? l = none := by
      rw [face?, Definition.face?, ← at?, hd]
      rfl
    by_cases hl : l = loc
    · subst hl
      simp [hd, hnone]
    · simp [hl, hnone]
  | some d =>
    right
    refine ⟨d, rfl, ?_⟩
    by_cases hl : l = loc
    · subst hl
      exact ⟨(f d).bare, by simp [hd], hkey d, hparent d, hnode d, .inr rfl⟩
    · exact ⟨d.bare, by simp [hl, face?_of_at? hd], rfl, rfl, rfl, .inl rfl⟩

/-- A relabelling that keeps what the indexes are about, and gives no value to a container, keeps
the agreement. -/
theorem Indexed.relabel {t : Definitions} (h : Indexed t) {loc : Location}
    {f : Definition → Definition} (hchildren : ∀ d, (f d).children = d.children)
    (hparent : ∀ d, (f d).parent = d.parent) (hsegment : ∀ d, (f d).segment = d.segment)
    (hnode : ∀ d, (f d).node = d.node)
    (hvalue : t.face? (loc ++ [0]) = none ∨ ∀ d, (f d).value = d.value) :
    Indexed (t.relabel loc f) := by
  have hface := face?_relabel_cases t loc hchildren hparent hsegment hnode
  constructor
  case index_iff =>
    intro k l
    rw [index_relabel, h.index_iff]
    rcases hface l with ⟨h1, h2⟩ | ⟨d, hd, e, he, hek, -⟩
    · simp [h1, h2]
    · simp [he, face?_of_at? hd, hek]
  case root =>
    intro i e he
    rcases hface [i] with ⟨h1, -⟩ | ⟨d, hd, e', he', -, hp, -⟩
    · rw [h1] at he
      cases he
    · obtain rfl := Option.some.inj (he.symm.trans he')
      rw [hp]
      exact h.root (f := d.bare) (face?_of_at? hd)
  case child =>
    intro l i p c hp hc
    rcases hface l with ⟨h1, -⟩ | ⟨d, hd, e, he, hek, -, -, hev⟩
    · rw [h1] at hp
      cases hp
    rcases hface (l ++ [i]) with ⟨h1, -⟩ | ⟨d', hd', e', he', -, hep', -⟩
    · rw [h1] at hc
      cases hc
    obtain rfl := Option.some.inj (hp.symm.trans he)
    obtain rfl := Option.some.inj (hc.symm.trans he')
    obtain ⟨hroot, hkey', hval⟩ := h.child (face?_of_at? hd) (face?_of_at? hd')
    refine ⟨by rw [hep']; exact hroot, by rw [hep', hek]; exact hkey', ?_⟩
    rcases hev with hev | rfl
    · rw [hev]
      exact hval
    · rcases hvalue with hvalue | hvalue
      · -- a definition with a child has a first child
        have hfirst := (Definition.children_eq_nil_iff hd).mpr hvalue
        have := Definition.at?_child hd i
        rw [at?] at hd'
        rw [hd', hfirst] at this
        simp at this
      · rw [face?_relabel hchildren, if_pos rfl, hd] at hp
        obtain rfl := Option.some.inj hp
        simpa [hvalue] using hval
  case binding =>
    intro k
    rw [binding_relabel, index_relabel, h.binding]
    cases hi : t.index.get? k with
    | none => rfl
    | some l =>
      rcases hface l with ⟨h1, h2⟩ | ⟨d, hd, e, he, -, -, hn, -⟩
      · simp [h1, h2]
      · simp [he, face?_of_at? hd, hn]

/-- Each change keeps the index in agreement. -/
theorem Indexed.change {P : ConfigPath → Prop} {t t' : Definitions} (h : Indexed t)
    (hc : Change P t t') : Indexed t' := by
  cases hc with
  | grow allowed onWay stands room container vacant => exact h.grow stands room container vacant
  | value v allowed stands childless =>
    exact h.relabel (fun _ => rfl) (fun _ => rfl) (fun _ => rfl) (fun _ => rfl) (.inl childless)
  | comment c allowed stands =>
    exact h.relabel (fun _ => rfl) (fun _ => rfl) (fun _ => rfl) (fun _ => rfl)
      (.inr fun _ => rfl)

theorem Indexed.changes {P : ConfigPath → Prop} {t t' : Definitions} (h : Indexed t)
    (hc : Changes P t t') : Indexed t' := by
  induction hc with
  | refl => exact h
  | tail _ hstep ih => exact ih.change hstep

end Definitions

end RouterConfig
