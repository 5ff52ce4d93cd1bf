/-
RouterConfig.Proofs.Definition.Setting — what setting a value does, whether
it is refused or not.

`setValue_build`: after any calls, a value for a path is refused or set.
Whether it is refused, and with which error, is read off the tree before the
call (`refusal?`), and a refusal changes nothing. Otherwise the value is
set, what was missing on the way to it has been made, and all else is left
(`ValueSet`).

## How the proof goes

The code goes down the way and makes what is missing, so an error on the way
would leave a part of it behind. That does not happen, for what is missing
is missing from some step on (`OwnWay.missing_from`): a definition with a
value is met before the first one is made, or not at all
(`ensureBelow_outcome`). What is missing all along a way is made by
induction on its steps, and `Completed` says of each stage where the new
definitions stand and that the old ones stay (`Completed.grow`). Setting the
value itself changes the face of one definition (`face?_setValue`).

## Side conditions

The path is not that of the root. The keys on the way belong to the way
(`OwnWay`): a definition under one of them has the path of the key. Steps
may hold a slash, and a definition of other steps under such a key would be
taken for one on the way.
-/
import RouterConfig.Proofs.Definition.Demands
import RouterConfig.Proofs.Definition.Policy

namespace RouterConfig

namespace Definitions

/-! ## 1. The outcome -/

/-- The definitions under the keys of a way belong to the way: each has the path of its key. -/
def OwnWay (t : Definitions) (path : ConfigPath) : Prop :=
  ∀ p ∈ path.way, ∀ d ∈ t.get? p.key, d.fullPath.literal = p.literal

instance (t : Definitions) (path : ConfigPath) : Decidable (t.OwnWay path) :=
  inferInstanceAs (Decidable (∀ p ∈ path.way, ∀ d ∈ t.get? p.key, d.fullPath.literal = p.literal))

/-- The first of some paths whose definition has a value. -/
def firstLeaf? (t : Definitions) (ps : List ConfigPath) : Option ConfigPath :=
  ps.find? fun p => (t.get? p.key).any (·.isLeaf)

/-- Why a value is refused at a path: there are definitions below it, or it has a value and none may
be replaced, or the first definition above it that has a value is in the way. -/
def refusal? (t : Definitions) (path : ConfigPath) : Option DefinitionError :=
  if (t.get? path.key).any (!·.children.isEmpty) then some (.valueOnContainer path.key)
  else if t.policy = .reject ∧ (t.get? path.key).any (·.isLeaf) = true then
    some (.duplicatePath path.key)
  else (t.firstLeaf? path.way.dropLast).map fun p => .notContainer p.key

/-- The tree after a value has been set. -/
structure ValueSet (t : Definitions) (path : ConfigPath) (v : Value) (t' : Definitions) : Prop where
  schema : t'.schema = t.schema
  policy : t'.policy = t.policy
  indexed : Indexed t'
  value : t'.value? path.key = some v
  /-- What was there is where it was and as it was, but for the value of the path. -/
  kept : ∀ l f, t.face? l = some f →
    t'.face? l = some (if f.key = path.key then { f with value := v } else f)
  index_kept : ∀ k l, t.index.get? k = some l → t'.index.get? k = some l
  binding_kept : ∀ k, t.contains k = true → t'.binding? k = t.binding? k
  /-- What was missing on the way has been made, and nothing else. -/
  contains : ∀ k, t'.contains k = true ↔ t.contains k = true ∨ ∃ p ∈ path.way, p.key = k
  /-- What has been made is the last below the one above it, with no comment, and with no value but
  at the path. -/
  made : ∀ p step, p.snoc step ∈ path.way → t.contains (p.snoc step).key = false →
    ∃ loc i, t'.Stands p loc ∧ t'.index.get? (p.snoc step).key = some (loc ++ [i]) ∧
      t'.face? (loc ++ [i]) = some { Definition.bound t.schema p step.segment with
        comment := none, value := if (p.snoc step).key = path.key then v else .empty } ∧
      ∀ j, i < j → t'.face? (loc ++ [j]) = none

/-! ## 2. What is missing on a way -/

variable {t t' : Definitions} {path done : ConfigPath} {loc : Location} {step : Step}

/-- With a path of a way stands the one above it. -/
theorem OwnWay.contains_above (h : Indexed t) (how : t.OwnWay path)
    (hway : done.snoc step ∈ path.way) (hdone : done.isRoot = false)
    (hthere : t.contains (done.snoc step).key = true) : t.contains done.key = true := by
  rw [h.contains_eq] at hthere
  obtain ⟨d, hd⟩ := Option.isSome_iff_exists.mp hthere
  have hliteral := how _ hway d hd
  rw [Definition.fullPath_literal, ConfigPath.literal_snoc] at hliteral
  have hparent : d.parent.literal = done.literal := (List.append_inj' hliteral rfl).1
  have hroot : d.parent.isRoot = false := (ConfigPath.isRoot_eq_of_literal hparent).trans hdone
  have hmem : d ∈ t.walk := h.mem_walk.mpr (by rwa [h.key_of_get? hd])
  have hcontains := h.contains_parent hmem hroot
  rwa [ConfigPath.key_eq_of_literal hparent] at hcontains

/-- From the first that is missing on, all of the way is missing. -/
theorem OwnWay.missing_from (h : Indexed t) (how : t.OwnWay path) {rest : List Step}
    (hmissing : t.contains done.key = false) (hdone : done.isRoot = false)
    (hpath : done.steps ++ rest = path.steps) :
    ∀ p ∈ done.wayFrom rest, t.contains p.key = false := by
  induction rest generalizing done with
  | nil => simp [ConfigPath.wayFrom]
  | cons step rest ih =>
    have hsnoc : (done.snoc step).steps ++ rest = path.steps := by simpa using hpath
    have hway : done.snoc step ∈ path.way :=
      ConfigPath.mem_way.mpr ⟨ConfigPath.isRoot_snoc done step, rest, hsnoc⟩
    have hnext : t.contains (done.snoc step).key = false := by
      by_contra hthere
      rw [Bool.not_eq_false] at hthere
      rw [how.contains_above h hway hdone hthere] at hmissing
      cases hmissing
    intro p hp
    rcases List.mem_cons.mp hp with rfl | hp
    · exact hnext
    · exact ih hnext (ConfigPath.isRoot_snoc done step) hsnoc p hp

/-- Further steps lead to other keys. -/
theorem key_ne_of_mem_wayFrom {p : ConfigPath} {steps : List Step} (hdone : done.isRoot = false)
    (hp : p ∈ done.wayFrom steps) : done.key ≠ p.key := by
  obtain ⟨first, hne, -, hsteps⟩ := ConfigPath.mem_wayFrom.mp hp
  have hkey := ConfigPath.key_ne_of_prefix hdone hne
  rwa [← hsteps] at hkey

/-! ## 3. Making what is missing -/

/-- The tree after the definitions on a way have been made where they were missing. -/
structure Completed (ps : List ConfigPath) (t t' : Definitions) : Prop where
  kept : ∀ l f, t.face? l = some f → t'.face? l = some f
  index_kept : ∀ k l, t.index.get? k = some l → t'.index.get? k = some l
  binding_kept : ∀ k, t.contains k = true → t'.binding? k = t.binding? k
  contains : ∀ k, t'.contains k = true ↔ t.contains k = true ∨ ∃ p ∈ ps, p.key = k
  made : ∀ p step, p.snoc step ∈ ps → t.contains (p.snoc step).key = false →
    ∃ loc i, t'.Stands p loc ∧ t'.index.get? (p.snoc step).key = some (loc ++ [i]) ∧
      t'.face? (loc ++ [i]) = some (Definition.bound t.schema p step.segment) ∧
      ∀ j, i < j → t'.face? (loc ++ [j]) = none

theorem Completed.refl (t : Definitions) : Completed [] t t where
  kept _ _ hf := hf
  index_kept _ _ hk := hk
  binding_kept _ _ := rfl
  contains k := by simp
  made p step hp := absurd hp List.not_mem_nil

/-- What is there already need not be made. -/
theorem Completed.found {ps : List ConfigPath} {p : ConfigPath} (hp : t.contains p.key = true)
    (h : Completed ps t t') : Completed (p :: ps) t t' where
  kept := h.kept
  index_kept := h.index_kept
  binding_kept := h.binding_kept
  contains k := by
    rw [h.contains, List.exists_mem_cons_iff]
    constructor
    · exact Or.imp_right .inr
    · rintro (hk | rfl | hk)
      · exact .inl hk
      · exact .inl hp
      · exact .inr hk
  made q step hq hmissing := by
    rcases List.mem_cons.mp hq with rfl | hq
    · rw [hp] at hmissing
      cases hmissing
    · exact h.made q step hq hmissing

theorem Stands.kept (hs : t.Stands path loc)
    (h : ∀ k l, t.index.get? k = some l → t'.index.get? k = some l) : t'.Stands path loc := by
  cases hroot : path.isRoot with
  | true =>
    rw [hs.eq_nil hroot]
    exact stands_nil t' hroot
  | false => exact stands_of_index hroot (h _ _ (hs.index hroot))

theorem contains_eq_false_iff {k : String} :
    t.contains k = false ↔ t.index.get? k = none := by
  rw [contains, Dictionary.contains, Option.isSome_eq_false_iff, Option.isNone_iff_eq_none]

theorem contains_grow (i : Nat) (k : String) : (t.grow done step loc i).contains k = true ↔
    (done.snoc step).key = k ∨ t.contains k = true := by
  rw [contains, Dictionary.contains, index_grow, contains, Dictionary.contains]
  split
  case isTrue hk => simp [hk]
  case isFalse hk => simp [hk]

theorem face?_next_none {siblings : List Definition}
    (room : Definition.below? t.roots loc = some siblings) {j : Nat} (hj : siblings.length ≤ j) :
    t.face? (loc ++ [j]) = none := by
  rw [face?, Definition.face?_concat room]
  simpa using hj

/-- One definition made, and all that is missing below it. -/
theorem Completed.grow (hs : t.Stands done loc) {siblings : List Definition}
    (room : Definition.below? t.roots loc = some siblings)
    (hmissing : t.contains (done.snoc step).key = false) {rest : List Step} {n : Nat}
    (hway : ∀ p ∈ (done.snoc step).wayFrom rest, t.contains p.key = false →
      (t.grow done step loc siblings.length).contains p.key = false)
    (h : Completed ((done.snoc step).wayFrom rest) (t.grow done step loc siblings.length) t')
    (hfresh : ∀ m f, t'.face? m = some f →
      (t.grow done step loc siblings.length).face? m = some f ∨
        (loc ++ [siblings.length] ++ [n]) <+: m) :
    Completed (done.wayFrom (step :: rest)) t t' := by
  have hindex : ∀ k l, t.index.get? k = some l → t'.index.get? k = some l := by
    intro k l hk
    refine h.index_kept k l ?_
    rw [index_grow, if_neg]
    · exact hk
    · rintro rfl
      rw [contains_eq_false_iff.mp hmissing] at hk
      cases hk
  constructor
  case kept =>
    intro l f hf
    refine h.kept l f ?_
    rw [face?_grow room, if_neg]
    · exact hf
    · rintro rfl
      rw [face?_eq_none_of_room room []] at hf
      cases hf
  case index_kept => exact hindex
  case binding_kept =>
    intro k hk
    rw [h.binding_kept k ((contains_grow _ k).mpr (.inr hk)), binding_grow, if_neg]
    rintro rfl
    rw [hmissing] at hk
    cases hk
  case contains =>
    intro k
    rw [h.contains, contains_grow, ConfigPath.wayFrom, List.exists_mem_cons_iff]
    tauto
  case made =>
    intro p s hp hp'
    rcases List.mem_cons.mp hp with hself | hp
    · -- the definition that has just been made stays the last at its place
      obtain ⟨hsteps, hstep⟩ := List.append_inj' (congrArg ConfigPath.steps hself) rfl
      obtain rfl : p = done := congrArg ConfigPath.mk hsteps
      obtain rfl : s = step := List.singleton_inj.mp hstep
      refine ⟨loc, siblings.length, hs.kept hindex, h.index_kept _ _ (by simp [index_grow]),
        h.kept _ _ (by rw [face?_grow room, if_pos rfl]), ?_⟩
      intro j hj
      cases hf : t'.face? (loc ++ [j]) with
      | none => rfl
      | some f =>
        exfalso
        rcases hfresh _ f hf with hf | hbelow
        · rw [face?_grow room, if_neg (by simp; omega), face?_next_none room (by omega)] at hf
          cases hf
        · have hlength := hbelow.length_le
          simp at hlength
    · exact h.made p s hp (hway _ hp hp')

/-- What is missing all along a way can be made, all of it below the place where the way starts. -/
theorem ensureBelow_completes (rest : List Step) {siblings : List Definition} (h : Indexed t)
    (hs : t.Stands done loc) (hopen : rest ≠ [] → t.Open loc)
    (room : Definition.below? t.roots loc = some siblings)
    (hmissing : ∀ p ∈ done.wayFrom rest, t.contains p.key = false) :
    ∃ l t', ensureBelow done loc rest t = .ok l t' ∧ Completed (done.wayFrom rest) t t' ∧
      ∀ m f, t'.face? m = some f → t.face? m = some f ∨ (loc ++ [siblings.length]) <+: m := by
  induction rest generalizing done loc t siblings with
  | nil => exact ⟨loc, t, rfl, .refl t, fun m f hf => .inl hf⟩
  | cons step rest ih =>
    have hfirst := hmissing _ List.mem_cons_self
    have hvacant := contains_eq_false_iff.mp hfirst
    have hgrow : Change (fun _ => True) t (t.grow done step loc siblings.length) :=
      .grow trivial (List.prefix_refl (done.snoc step).steps) hs room (hopen (by simp)) hvacant
    have hindexed := h.change hgrow
    have hway : ∀ p ∈ (done.snoc step).wayFrom rest, t.contains p.key = false →
        (t.grow done step loc siblings.length).contains p.key = false := by
      intro p hp hp'
      rw [← Bool.not_eq_true, contains_grow, hp']
      have hkey := key_ne_of_mem_wayFrom (ConfigPath.isRoot_snoc done step) hp
      simpa using hkey
    obtain ⟨siblings', room'⟩ := (stands_grow (t := t) siblings.length).room hindexed
    obtain ⟨l, t', hrun, hcompleted, hfresh⟩ := ih hindexed (stands_grow _)
      (fun _ => open_grow room) room' fun p hp =>
        hway p hp (hmissing p (List.mem_cons_of_mem _ hp))
    refine ⟨l, t', (ensureBelow_missing hvacant room).trans hrun,
      hcompleted.grow hs room hfirst hway hfresh, ?_⟩
    intro m f hf
    rcases hfresh m f hf with hf | hbelow
    · rw [face?_grow room] at hf
      split at hf
      case isTrue hm => exact .inr (hm ▸ List.prefix_refl _)
      case isFalse => exact .inl hf
    · exact .inr ((List.prefix_append _ _).trans hbelow)

theorem firstLeaf?_way_cons {rest : List Step} (hrest : rest ≠ []) :
    t.firstLeaf? (done.wayFrom (step :: rest)).dropLast =
      if (t.get? (done.snoc step).key).any (·.isLeaf) then some (done.snoc step)
      else t.firstLeaf? ((done.snoc step).wayFrom rest).dropLast := by
  obtain ⟨s, more, rfl⟩ := List.exists_cons_of_ne_nil hrest
  rw [ConfigPath.wayFrom, ConfigPath.wayFrom, List.dropLast_cons_cons, firstLeaf?, List.find?_cons]
  split <;> simp_all [firstLeaf?]

theorem firstLeaf?_of_missing {ps : List ConfigPath} (h : ∀ p ∈ ps, t.contains p.key = false) :
    t.firstLeaf? ps = none := by
  rw [firstLeaf?, List.find?_eq_none]
  intro p hp
  simp [get?, contains_eq_false_iff.mp (h p hp)]

/-- On its own way an edit stops at the first definition with a value that others should stand
below, before anything has been made, or it makes what is missing. -/
theorem ensureBelow_outcome (rest : List Step) (h : Indexed t) (hs : t.Stands done loc)
    (hopen : rest ≠ [] → t.Open loc) (hpath : done.steps ++ rest = path.steps)
    (how : t.OwnWay path) :
    match t.firstLeaf? (done.wayFrom rest).dropLast with
    | some p => ensureBelow done loc rest t = .error (.notContainer p.key) t
    | none => ∃ l t', ensureBelow done loc rest t = .ok l t' ∧
        Completed (done.wayFrom rest) t t' := by
  induction rest generalizing done loc with
  | nil => exact ⟨loc, t, rfl, .refl t⟩
  | cons step rest ih =>
    have hsnoc : (done.snoc step).steps ++ rest = path.steps := by simpa using hpath
    cases hk : t.index.get? (done.snoc step).key with
    | some found =>
      have hget : t.get? (done.snoc step).key = t.at? found := by
        rw [get?, hk, Option.bind_some]
      cases hleaf : !rest.isEmpty && (t.at? found).any (·.isLeaf) with
      | true =>
        obtain ⟨hrest, hleaf'⟩ := Bool.and_eq_true_iff.mp hleaf
        rw [firstLeaf?_way_cons (by simpa using hrest), hget, if_pos hleaf']
        exact ensureBelow_leaf hk hleaf
      | false =>
        have hopen' : rest ≠ [] → t.Open found := by
          intro hrest
          refine open_of_not_isLeaf ?_
          simpa [hrest] using hleaf
        have hfirst : t.firstLeaf? (done.wayFrom (step :: rest)).dropLast =
            t.firstLeaf? ((done.snoc step).wayFrom rest).dropLast := by
          by_cases hrest : rest = []
          · subst hrest
            rfl
          · rw [firstLeaf?_way_cons hrest, hget, not_isLeaf_of_open (hopen' hrest)]
            rfl
        have hthere : t.contains (done.snoc step).key = true := by
          rw [contains, Dictionary.contains, hk, Option.isSome_some]
        have hrun := ih (stands_snoc hk) hopen' hsnoc
        rw [hfirst, ensureBelow_found hk hleaf]
        split at hrun
        case h_1 => exact hrun
        case h_2 =>
          obtain ⟨l, t', hok, hcompleted⟩ := hrun
          exact ⟨l, t', hok, hcompleted.found hthere⟩
    | none =>
      -- nothing of the rest is there, so that no value can be met
      have hfirst := contains_eq_false_iff.mpr hk
      have hrest := how.missing_from h hfirst (ConfigPath.isRoot_snoc done step) hsnoc
      have hmissing : ∀ p ∈ done.wayFrom (step :: rest), t.contains p.key = false := by
        intro p hp
        rcases List.mem_cons.mp hp with rfl | hp
        · exact hfirst
        · exact hrest p hp
      obtain ⟨siblings, room⟩ := hs.room h
      obtain ⟨l, t', hrun, hcompleted, -⟩ := ensureBelow_completes _ h hs hopen room hmissing
      rw [firstLeaf?_of_missing fun p hp => hmissing p (List.dropLast_subset _ hp)]
      exact ⟨l, t', hrun, hcompleted⟩

/-! ## 4. Setting a value -/

section Value

variable {l : Location} (ht' : Indexed t') (hl : t'.index.get? path.key = some l) (v : Value)
include ht' hl

/-- Setting the value of a path changes the face of its definition only. -/
theorem face?_setValue {m : Location} {f : Definition} (hf : t'.face? m = some f) :
    (t'.relabel l fun d => { d with value := v }).face? m =
      some (if f.key = path.key then { f with value := v } else f) := by
  have hm : t'.index.get? f.key = some m := ht'.index_iff.mpr ⟨f, hf, rfl⟩
  rw [face?_relabel (by intro d; rfl)]
  by_cases hkey : f.key = path.key
  · obtain rfl : m = l := by
      rw [hkey, hl] at hm
      exact (Option.some.inj hm).symm
    obtain ⟨d, hd, rfl⟩ := face?_eq_some.mp hf
    rw [if_pos rfl, if_pos hkey, hd]
    rfl
  · have hne : m ≠ l := by
      rintro rfl
      obtain ⟨g, hg, hgkey⟩ := ht'.index_iff.mp hl
      obtain rfl := Option.some.inj (hf.symm.trans hg)
      exact hkey hgkey
    rw [if_neg hne, if_neg hkey, hf]

/-- A value set where what was missing has been made. -/
theorem Completed.valueSet (hschema : t'.schema = t.schema) (hpolicy : t'.policy = t.policy)
    (h : Completed path.way t t') (hset : Indexed (t'.relabel l fun d => { d with value := v })) :
    ValueSet t path v (t'.relabel l fun d => { d with value := v }) where
  schema := hschema
  policy := hpolicy
  indexed := hset
  value := by
    obtain ⟨f, hf, hkey⟩ := ht'.index_iff.mp hl
    have hface := face?_setValue ht' hl v hf
    rw [if_pos hkey] at hface
    exact value?_eq_some.mpr ⟨l, _, hl, hface, rfl⟩
  kept m f hf := face?_setValue ht' hl v (h.kept m f hf)
  index_kept := h.index_kept
  binding_kept := h.binding_kept
  contains := h.contains
  made p step hp hmissing := by
    obtain ⟨loc, i, hs, hi, hf, hlast⟩ := h.made p step hp hmissing
    refine ⟨loc, i, hs, hi, ?_, ?_⟩
    · rw [face?_setValue ht' hl v hf, Definition.key_bound]
      split <;> rfl
    · intro j hj
      exact (face?_relabel_eq_none (by intro d; rfl)).mpr (hlast j hj)

end Value

theorem ensure_outcome (h : Indexed t) (hroot : path.isRoot = false) (how : t.OwnWay path) :
    match t.firstLeaf? path.way.dropLast with
    | some p => ensure path t = .error (.notContainer p.key) t
    | none => ∃ l t', ensure path t = .ok l t' ∧ Completed path.way t t' := by
  have hensure : ensure path t = ensureBelow .root [] path.steps t := by
    rw [ensure, if_neg (by simp [hroot])]
  have hopen : path.steps ≠ [] → t.Open [] := by
    intro _ f hf
    cases hf
  rw [hensure]
  exact ensureBelow_outcome path.steps h (stands_nil t rfl : t.Stands .root []) hopen rfl how

/-- Where the path itself does not refuse a value, only what is above it can. -/
theorem setValue_of_vacant (h : Indexed t) (hroot : path.isRoot = false) (how : t.OwnWay path)
    (v : Value) (hvacant : checkVacant path t = .ok () t) :
    match (t.firstLeaf? path.way.dropLast).map fun p => .notContainer p.key with
    | some e => setValue path v t = .error e t
    | none => ∃ t', setValue path v t = .ok () t' ∧ ValueSet t path v t' := by
  have houtcome := ensure_outcome h hroot how
  have hset : setValue path v t = (ensure path >>= fun loc =>
      update loc fun d => { d with value := v }) t := by
    rw [setValue, bind_of_ok hvacant]
  cases hleaf : t.firstLeaf? path.way.dropLast with
  | some p =>
    rw [hleaf] at houtcome
    exact hset.trans (bind_of_error houtcome)
  | none =>
    rw [hleaf] at houtcome
    obtain ⟨l, t', hrun, hcompleted⟩ := houtcome
    have hchanges := (keeps_ensure path).changes h hrun
    have hl := ((ensure_changes path h).2 l t' hrun).2.index hroot
    rw [bind_of_ok hrun, update_apply] at hset
    have hindexed := h.changes ((keeps_setValue path v).changes h hset)
    exact ⟨_, hset, hcompleted.valueSet (h.changes hchanges) hl v hchanges.schema_eq
      hchanges.policy_eq hindexed⟩

/-- Setting a value either is refused, and then nothing has changed, or sets it, makes what is
missing on the way to it and leaves all else. -/
theorem setValue_outcome (h : Indexed t) (hroot : path.isRoot = false) (how : t.OwnWay path)
    (v : Value) : match t.refusal? path with
    | some e => setValue path v t = .error e t
    | none => ∃ t', setValue path v t = .ok () t' ∧ ValueSet t path v t' := by
  have hcheck := checkVacant_apply path t
  rw [refusal?]
  cases hget : t.get? path.key with
  | none =>
    rw [hget] at hcheck
    simpa using setValue_of_vacant h hroot how v hcheck
  | some d =>
    rw [hget] at hcheck
    dsimp only at hcheck
    rw [Option.any_some, Option.any_some]
    by_cases hchildren : (!d.children.isEmpty) = true
    · rw [if_pos hchildren] at hcheck ⊢
      exact bind_of_error hcheck
    · rw [if_neg hchildren] at hcheck ⊢
      by_cases hvalue : t.policy = .reject ∧ d.isLeaf = true
      · rw [if_pos (by simp [hvalue])] at hcheck
        rw [if_pos hvalue]
        exact bind_of_error hcheck
      · rw [if_neg (by simpa [and_comm] using hvalue)] at hcheck
        rw [if_neg hvalue]
        exact setValue_of_vacant h hroot how v hcheck

/-- **After any calls a value is refused without a change, or set, with what was missing made and
all else left.** -/
theorem setValue_build (schema : SchemaNode) (policy : DuplicatePolicy) (calls : List Call)
    {path : ConfigPath} (hroot : path.isRoot = false)
    (how : (build schema policy calls).OwnWay path) (v : Value) :
    match (build schema policy calls).refusal? path with
    | some e => setValue path v (build schema policy calls) = .error e (build schema policy calls)
    | none => ∃ t', setValue path v (build schema policy calls) = .ok () t' ∧
        ValueSet (build schema policy calls) path v t' :=
  setValue_outcome (indexed_build schema policy calls) hroot how v

theorem setValue_build_below :
    let t := build default .reject [.insertValue (.ofSegments [.fixed "a", .fixed "b"]) "1"]
    (∃ t', setValue (.ofSegments [.fixed "a", .fixed "c", .fixed "d"]) (.single "2") t = .ok () t' ∧
      t'.value? "a/c/d" = some (.single "2") ∧ t'.contains "a/c" = true ∧ t'.contains "c" = false) ∧
    setValue (.ofSegments [.fixed "a", .fixed "b", .fixed "c"]) (.single "2") t =
      .error (.notContainer "a/b") t := by
  let t := build default .reject [.insertValue (.ofSegments [.fixed "a", .fixed "b"]) "1"]
  constructor
  · have hrun := setValue_build default .reject
      [.insertValue (.ofSegments [.fixed "a", .fixed "b"]) "1"]
      (show (ConfigPath.ofSegments [.fixed "a", .fixed "c", .fixed "d"]).isRoot = false by decide)
      (by decide +kernel) (.single "2")
    have hnone : t.refusal? (.ofSegments [.fixed "a", .fixed "c", .fixed "d"]) = none := by
      decide +kernel
    rw [hnone] at hrun
    obtain ⟨t', hok, hset⟩ := hrun
    refine ⟨t', hok, hset.value, (hset.contains _).mpr (.inr ?_), ?_⟩
    · decide +kernel
    · rw [← Bool.not_eq_true, hset.contains]
      decide +kernel
  · have hrun := setValue_build default .reject
      [.insertValue (.ofSegments [.fixed "a", .fixed "b"]) "1"]
      (show (ConfigPath.ofSegments [.fixed "a", .fixed "b", .fixed "c"]).isRoot = false by decide)
      (by decide +kernel) (.single "2")
    have hsome : t.refusal? (.ofSegments [.fixed "a", .fixed "b", .fixed "c"]) =
        some (.notContainer "a/b") := by
      decide +kernel
    rwa [hsome] at hrun

end Definitions

end RouterConfig
