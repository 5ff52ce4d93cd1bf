/-
RouterConfig.Proofs.Definition.Edits — every edit of a tree is a sequence
of changes for the paths that the edit is about.

`Keeps P e` says so of one edit, for its whole run and for what it has
done when it stops with an error. Edits made one after the other keep to
the paths of each (`Keeps.bind`).
-/
import RouterConfig.Proofs.Definition.Indexed

namespace RouterConfig

/-! ## 1. Edits one after the other -/

section
variable {ε σ : Type} {x : EStateM ε σ α} {f : α → EStateM ε σ β} {s s' : σ}

theorem bind_of_ok {a : α} (h : x s = .ok a s') : (x >>= f) s = f a s' := by
  show EStateM.bind x f s = _
  rw [EStateM.bind, h]

theorem bind_of_error {cause : ε} (h : x s = .error cause s') :
    (x >>= f) s = .error cause s' := by
  show EStateM.bind x f s = _
  rw [EStateM.bind, h]

/-- What looks at the state goes on with it, and leaves it as it is. -/
theorem get_bind (f : σ → EStateM ε σ α) : ((get : EStateM ε σ σ) >>= f) s = f s s := rfl

/-- What succeeds does so in each of its parts. -/
theorem bind_eq_ok {b : β} :
    (x >>= f) s = .ok b s' ↔ ∃ a u, x s = .ok a u ∧ f a u = .ok b s' := by
  cases h : x s with
  | ok a u =>
    rw [bind_of_ok h]
    constructor
    · intro hf
      exact ⟨a, u, rfl, hf⟩
    · rintro ⟨_, _, ⟨⟩, hf⟩
      exact hf
  | error cause u =>
    rw [bind_of_error h]
    constructor
    · rintro ⟨⟩
    · rintro ⟨_, _, ⟨⟩, -⟩

/-- What fails does so in one of its parts. -/
theorem bind_eq_error {cause : ε} : (x >>= f) s = .error cause s' ↔
    x s = .error cause s' ∨ ∃ a u, x s = .ok a u ∧ f a u = .error cause s' := by
  cases h : x s with
  | ok a u =>
    rw [bind_of_ok h]
    constructor
    · intro hf
      exact .inr ⟨a, u, rfl, hf⟩
    · rintro (⟨⟨⟩⟩ | ⟨_, _, ⟨⟩, hf⟩)
      exact hf
  | error other u =>
    rw [bind_of_error h]
    constructor
    · rintro ⟨⟩
      exact .inl rfl
    · rintro (⟨⟨⟩⟩ | ⟨_, _, ⟨⟩, -⟩)
      rfl

end

namespace Definitions

/-- The tree after an edit, also when the edit stopped with an error. -/
def Edit.after (edit : Edit α) (t : Definitions) : Definitions :=
  match edit t with
  | .ok _ t => t
  | .error _ t => t

theorem Edit.after_ok {e : Edit α} {a : α} {t t' : Definitions} (h : e t = .ok a t') :
    e.after t = t' := by
  rw [Edit.after, h]

theorem Edit.after_error {e : Edit α} {cause : DefinitionError} {t t' : Definitions}
    (h : e t = .error cause t') : e.after t = t' := by
  rw [Edit.after, h]

/-- The edit makes changes for the paths `P` and no other. -/
def Keeps (P : ConfigPath → Prop) (e : Edit α) : Prop :=
  ∀ t, Indexed t → Changes P t (e.after t)

theorem Keeps.changes {P : ConfigPath → Prop} {e : Edit α} (he : Keeps P e) {t t' : Definitions}
    (ht : Indexed t) {a : α} (h : e t = .ok a t') : Changes P t t' := by
  have := he t ht
  rwa [Edit.after_ok h] at this

theorem Keeps.pure {P : ConfigPath → Prop} (a : α) : Keeps P (Pure.pure a : Edit α) :=
  fun _ _ => .refl

theorem Keeps.bind {P : ConfigPath → Prop} {e : Edit α} {f : α → Edit β} (he : Keeps P e)
    (hf : ∀ a, Keeps P (f a)) : Keeps P (e >>= f) := by
  intro t ht
  have h1 := he t ht
  cases hr : e t with
  | error cause t' =>
    rw [Edit.after_error hr] at h1
    rw [Edit.after_error (bind_of_error hr)]
    exact h1
  | ok a t' =>
    rw [Edit.after_ok hr] at h1
    rw [Edit.after, bind_of_ok hr]
    exact h1.trans (hf a t' (ht.changes h1))

theorem Keeps.mono {P Q : ConfigPath → Prop} (hPQ : ∀ p, P p → Q p) {e : Edit α}
    (he : Keeps P e) : Keeps Q e :=
  fun t ht => (he t ht).mono hPQ

/-! ## 2. Finding and making what leads to a path -/

section Place

variable {parent : ConfigPath} {loc : Location} {new : Definition} {t : Definitions}

/-- Where there is room, a definition is put last. -/
theorem place_of_room {siblings : List Definition}
    (room : Definition.below? t.roots loc = some siblings) :
    place parent loc new t = .ok (loc ++ [siblings.length])
      { t with roots := Definition.appendAt new loc t.roots } := by
  simp only [place, get_bind, room]
  rfl

theorem place_of_none (room : Definition.below? t.roots loc = none) :
    place parent loc new t = .error (.parentNotFound parent.key) t := by
  simp only [place, get_bind, room]
  rfl

end Place

section Descent

variable {done : ConfigPath} {loc : Location} {step : Step} {rest : List Step} {t : Definitions}

/-- Nothing can stand below a definition that holds a value. -/
theorem ensureBelow_leaf {found : Location}
    (hk : t.index.get? (done.snoc step).key = some found)
    (hleaf : (!rest.isEmpty && (t.at? found).any (·.isLeaf)) = true) :
    ensureBelow done loc (step :: rest) t = .error (.notContainer (done.snoc step).key) t := by
  rw [ConfigPath.snoc] at hk ⊢
  simp only [ensureBelow, get_bind, hk, hleaf, ↓reduceIte]
  rfl

/-- What is there is gone through. -/
theorem ensureBelow_found {found : Location}
    (hk : t.index.get? (done.snoc step).key = some found)
    (hleaf : (!rest.isEmpty && (t.at? found).any (·.isLeaf)) = false) :
    ensureBelow done loc (step :: rest) t = ensureBelow (done.snoc step) found rest t := by
  rw [ConfigPath.snoc] at hk ⊢
  simp only [ensureBelow, get_bind, hk, hleaf]
  rfl

/-- What is missing is made. -/
theorem ensureBelow_missing {siblings : List Definition}
    (hk : t.index.get? (done.snoc step).key = none)
    (room : Definition.below? t.roots loc = some siblings) :
    ensureBelow done loc (step :: rest) t
      = ensureBelow (done.snoc step) (loc ++ [siblings.length]) rest
          (t.grow done step loc siblings.length) := by
  rw [ConfigPath.snoc] at hk ⊢
  simp only [ensureBelow, get_bind, hk]
  rw [bind_of_ok (place_of_room room)]
  rfl

end Descent

/-- Whether what stands at a place may have something below it. -/
def Open (t : Definitions) (loc : Location) : Prop := ∀ f, t.face? loc = some f → f.value = .empty

theorem open_of_not_isLeaf {t : Definitions} {loc : Location}
    (h : (t.at? loc).any (·.isLeaf) = false) : t.Open loc := by
  intro f hf
  obtain ⟨d, hd, rfl⟩ := face?_eq_some.mp hf
  rw [hd] at h
  cases hv : d.value with
  | empty => simp [hv]
  | single _ => simp [Definition.isLeaf, Value.isEmpty, hv] at h
  | multi _ => simp [Definition.isLeaf, Value.isEmpty, hv] at h

theorem not_isLeaf_of_open {t : Definitions} {loc : Location} (h : t.Open loc) :
    (t.at? loc).any (·.isLeaf) = false := by
  cases hat : t.at? loc with
  | none => rfl
  | some d =>
    have hempty : d.value = .empty := h d.bare (face?_of_at? hat)
    simp [Definition.isLeaf, Value.isEmpty, hempty]

section

variable {t : Definitions} {done : ConfigPath} {step : Step} {loc : Location}

theorem stands_snoc {found : Location} (hk : t.index.get? (done.snoc step).key = some found) :
    t.Stands (done.snoc step) found :=
  stands_of_index (ConfigPath.isRoot_snoc done step) hk

theorem stands_grow (i : Nat) : (t.grow done step loc i).Stands (done.snoc step) (loc ++ [i]) :=
  stands_snoc (by simp [index_grow])

/-- A definition that was just made has no value. -/
theorem open_grow {siblings : List Definition}
    (room : Definition.below? t.roots loc = some siblings) :
    (t.grow done step loc siblings.length).Open (loc ++ [siblings.length]) := by
  intro f hf
  rw [face?_grow room, if_pos rfl] at hf
  obtain rfl := Option.some.inj hf
  rfl

end

/-- What is made on the way down is a sequence of changes, and the place found in the end is that of
the path. -/
theorem ensureBelow_changes {path : ConfigPath} (steps : List Step) {done : ConfigPath}
    {loc : Location} {t : Definitions} (h : Indexed t) (hs : t.Stands done loc)
    (hopen : steps ≠ [] → t.Open loc) (hpath : done.steps ++ steps = path.steps) :
    Changes (· = path) t (Edit.after (ensureBelow done loc steps) t) ∧
      ∀ l t', ensureBelow done loc steps t = .ok l t' → t'.Stands path l := by
  induction steps generalizing done loc t with
  | nil =>
    obtain rfl : done = path := by
      cases path
      cases done
      simpa using hpath
    refine ⟨.refl, ?_⟩
    rintro l t' ⟨⟩
    exact hs
  | cons step rest ih =>
    have hsnoc : (done.snoc step).steps ++ rest = path.steps := by simpa using hpath
    cases hk : t.index.get? (done.snoc step).key with
    | some found =>
      cases hleaf : !rest.isEmpty && (t.at? found).any (·.isLeaf) with
      | true =>
        rw [Edit.after, ensureBelow_leaf hk hleaf]
        refine ⟨.refl, ?_⟩
        rintro l t' ⟨⟩
      | false =>
        rw [Edit.after, ensureBelow_found hk hleaf]
        have hopen' : rest ≠ [] → t.Open found := by
          intro hrest
          refine open_of_not_isLeaf ?_
          simpa [hrest] using hleaf
        exact ih h (stands_snoc hk) hopen' hsnoc
    | none =>
      obtain ⟨siblings, room⟩ := hs.room h
      have container := hopen (by simp)
      have hgrow : Change (· = path) t (t.grow done step loc siblings.length) :=
        .grow rfl ⟨rest, hsnoc⟩ hs room container hk
      obtain ⟨hchanges, hresult⟩ :=
        ih (h.change hgrow) (stands_grow _) (fun _ => open_grow room) hsnoc
      rw [Edit.after, ensureBelow_missing hk room]
      exact ⟨.head hgrow hchanges, hresult⟩

theorem ensure_changes (path : ConfigPath) {t : Definitions} (h : Indexed t) :
    Changes (· = path) t (Edit.after (ensure path) t) ∧
      ∀ l t', ensure path t = .ok l t' → path.isRoot = false ∧ t'.Stands path l := by
  unfold ensure
  cases hroot : path.isRoot with
  | true =>
    refine ⟨.refl, ?_⟩
    rintro l t' ⟨⟩
  | false =>
    have hopen : path.steps ≠ [] → t.Open [] := by
      intro _ f hf
      cases hf
    have hroot' : t.Stands .root [] := rfl
    obtain ⟨hchanges, hresult⟩ := ensureBelow_changes path.steps h hroot' hopen rfl
    exact ⟨hchanges, fun l t' hl => ⟨rfl, hresult l t' hl⟩⟩

theorem keeps_ensure (path : ConfigPath) : Keeps (· = path) (ensure path) :=
  fun _ ht => (ensure_changes path ht).1

/-! ## 3. Setting a value or a comment -/

/-- Changes for one path put nothing below the definition of that path. -/
theorem childless_of_changes {path : ConfigPath} (hroot : path.isRoot = false)
    {t t' : Definitions} (h : Indexed t) (hc : Changes (· = path) t t')
    (hfree : ∀ l, t.index.get? path.key = some l → t.face? (l ++ [0]) = none) :
    ∀ l, t'.index.get? path.key = some l → t'.face? (l ++ [0]) = none := by
  induction hc with
  | refl => exact hfree
  | @tail u u' hbefore hstep ih =>
    have hu := h.changes hbefore
    intro l hl
    cases hstep with
    | @grow path' done step loc siblings allowed onWay stands room container vacant =>
      subst allowed
      rw [index_grow] at hl
      rw [face?_grow room]
      split at hl
      case isTrue hkey =>
        obtain rfl := Option.some.inj hl
        have hne : loc ++ [siblings.length] ++ [0] ≠ loc ++ [siblings.length] := by simp
        rw [if_neg hne, List.append_assoc]
        exact face?_eq_none_of_room room [0]
      case isFalse hkey =>
        have hne : l ++ [0] ≠ loc ++ [siblings.length] := by
          intro heq
          -- the new definition would stand below the path itself, but it is on the way to it
          obtain ⟨rfl, -⟩ := List.append_inj' heq rfl
          obtain ⟨f, hf, hfkey⟩ := hu.index_iff.mp hl
          have hdone := stands.isRoot_eq_false (ne_nil_of_face? hf)
          obtain ⟨g, hg, hgkey⟩ := stands.face? hu hdone
          obtain rfl := Option.some.inj (hf.symm.trans hg)
          obtain ⟨rest, hrest⟩ := onWay
          have hsteps : done.steps ++ step :: rest = path'.steps := by simpa using hrest
          have hlong := ConfigPath.key_ne_of_prefix hdone (List.cons_ne_nil step rest)
          rw [hsteps] at hlong
          exact hlong (hgkey.symm.trans hfkey)
        rw [if_neg hne]
        exact ih l hl
    | value v allowed stands childless =>
      exact (face?_relabel_eq_none (by intro d; rfl)).mpr (ih l hl)
    | comment c allowed stands =>
      exact (face?_relabel_eq_none (by intro d; rfl)).mpr (ih l hl)

/-- Setting what an edit of one definition sets, after its path has been found or made. -/
theorem update_apply (loc : Location) (f : Definition → Definition) (t : Definitions) :
    update loc f t = .ok () (t.relabel loc f) := rfl

/-- Whether a value may be set is decided without a change. -/
theorem checkVacant_apply (path : ConfigPath) (t : Definitions) :
    checkVacant path t = match t.get? path.key with
      | none => .ok () t
      | some d =>
        if !d.children.isEmpty then .error (.valueOnContainer path.key) t
        else if d.isLeaf && t.policy == .reject then .error (.duplicatePath path.key) t
        else .ok () t := by
  simp only [checkVacant, get_bind]
  cases t.get? path.key with
  | none => rfl
  | some d =>
    cases hc : !d.children.isEmpty with
    | true => simp only [hc, ↓reduceIte]; rfl
    | false =>
      cases hl : d.isLeaf && t.policy == .reject with
      | true => simp only [hc, hl, ↓reduceIte]; rfl
      | false => simp only [hc, hl]; rfl

/-- A value is refused at once, or set where the path leads. -/
theorem setValue_cases (path : ConfigPath) (value : Value) (t : Definitions) :
    (∃ e, setValue path value t = .error e t) ∨
      (∀ d, t.get? path.key = some d → d.children = []) ∧
        setValue path value t = (ensure path >>= fun loc =>
          update loc fun d => { d with value }) t := by
  have hcheck := checkVacant_apply path t
  cases hget : t.get? path.key with
  | none =>
    right
    rw [hget] at hcheck
    exact ⟨by simp, by rw [setValue, bind_of_ok hcheck]⟩
  | some d =>
    rw [hget] at hcheck
    by_cases hc : (!d.children.isEmpty) = true
    · left
      simp only [if_pos hc] at hcheck
      exact ⟨_, by rw [setValue, bind_of_error hcheck]⟩
    · simp only [if_neg hc] at hcheck
      by_cases hl : (d.isLeaf && t.policy == .reject) = true
      · left
        simp only [if_pos hl] at hcheck
        exact ⟨_, by rw [setValue, bind_of_error hcheck]⟩
      · right
        simp only [if_neg hl] at hcheck
        refine ⟨?_, by rw [setValue, bind_of_ok hcheck]⟩
        rintro d' ⟨⟩
        simpa using hc

/-- A change of the definition of a path, once that is found or made, keeps to the path. -/
theorem changes_ensure_update {path : ConfigPath} {f : Definition → Definition}
    {t : Definitions} (ht : Indexed t)
    (hf : ∀ u loc, Indexed u → Changes (· = path) t u → path.isRoot = false →
      u.index.get? path.key = some loc → Change (· = path) u (u.relabel loc f)) :
    Changes (· = path) t (Edit.after (ensure path >>= fun loc => update loc f) t) := by
  obtain ⟨hchanges, hresult⟩ := ensure_changes path ht
  cases hens : ensure path t with
  | error e u =>
    rw [Edit.after_error hens] at hchanges
    rw [Edit.after_error (bind_of_error hens)]
    exact hchanges
  | ok loc u =>
    rw [Edit.after_ok hens] at hchanges
    obtain ⟨hroot, hstands⟩ := hresult loc u hens
    rw [Edit.after, bind_of_ok hens, update_apply]
    exact hchanges.tail (hf u loc (ht.changes hchanges) hchanges hroot (hstands.index hroot))

theorem keeps_setValue (path : ConfigPath) (value : Value) :
    Keeps (· = path) (setValue path value) := by
  intro t ht
  rcases setValue_cases path value t with ⟨e, he⟩ | ⟨hchildren, heq⟩
  · rw [Edit.after_error he]
  · rw [Edit.after, heq, ← Edit.after]
    refine changes_ensure_update ht ?_
    intro u loc hu hchanges hroot hstands
    have hfree : ∀ l, t.index.get? path.key = some l → t.face? (l ++ [0]) = none := by
      intro l hl
      obtain ⟨d, hd, hat, -⟩ := ht.get?_of_index hl
      exact (Definition.children_eq_nil_iff hat).mp (hchildren d hd)
    have hchildless := childless_of_changes hroot ht hchanges hfree loc hstands
    exact .value value rfl hstands hchildless

theorem keeps_setComment (path : ConfigPath) (comment : String) :
    Keeps (· = path) (setComment path comment) :=
  fun _ ht => changes_ensure_update ht fun _ _ _ _ _ hstands => .comment comment rfl hstands

/-! ## 4. Putting a template -/

/-- The paths that continue a path. -/
def Below (above path : ConfigPath) : Prop := above.steps <+: path.steps

theorem below_of_eq {above path : ConfigPath} (h : path = above) : Below above path :=
  h ▸ List.prefix_refl _

theorem below_entryPath (schema : SchemaNode) (above : ConfigPath) (name : String)
    {path : ConfigPath} (h : Below (entryPath schema above name) path) : Below above path :=
  (List.prefix_append _ _).trans h

mutual

theorem keeps_insertEntry (schema : SchemaNode) (path : ConfigPath) :
    (value : TemplateValue) → Keeps (Below path) (insertEntry schema path value)
  | .scalar _ => (keeps_setValue path _).mono fun _ => below_of_eq
  | .list _ => (keeps_setValue path _).mono fun _ => below_of_eq
  | .node entries =>
    ((keeps_ensure path).bind fun _ => .pure ()).mono (fun _ => below_of_eq) |>.bind
      fun _ => keeps_insertEntries schema path entries
  | .presence => ((keeps_ensure path).bind fun _ => .pure ()).mono fun _ => below_of_eq

theorem keeps_insertEntries (schema : SchemaNode) (above : ConfigPath) :
    (entries : TemplateEntries) → Keeps (Below above) (insertEntries schema above entries)
  | [] => .pure ()
  | (name, value) :: rest =>
    ((keeps_insertEntry schema _ value).mono fun _ => below_entryPath schema above name).bind
      fun _ => keeps_insertEntries schema above rest

end

theorem keeps_insertTemplate (above : ConfigPath) (template : Template) :
    Keeps (Below above) (insertTemplate above template) := by
  intro t ht
  exact keeps_insertEntries t.schema above template.entries t ht

end Definitions

end RouterConfig
