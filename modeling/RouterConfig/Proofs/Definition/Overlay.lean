/-
RouterConfig.Proofs.Definition.Overlay — demands laid over a tree that has
definitions already.

`Overlaid t ds t'` says all of the tree `t'` that the demands `ds` make of
`t`: what was there stays where it was and as it was, but for the values
that are asked for; what was missing on the way to the demands is made,
after all that was there; and there is nothing else. Demands laid over a
tree one list after the other are laid over it together (`Overlaid.trans`).

Whether a demand is admitted can be read off the tree that the demands
before it were laid over, for they leave it so (`Overlaid.admits_iff`): they
set no value on its way and put nothing below its path. So a whole list
succeeds exactly when the tree admits each of its demands
(`Overlaid.editAll`).
-/
import RouterConfig.Proofs.Definition.Setting

namespace RouterConfig

/-! ## 1. Ways -/

namespace ConfigPath

/-- A path other than the root is one step below another. -/
theorem exists_eq_snoc {path : ConfigPath} (h : path.isRoot = false) :
    ∃ (above : ConfigPath) (step : Step), path = above.snoc step := by
  obtain ⟨steps⟩ := path
  cases steps using List.reverseRecOn with
  | nil => cases h
  | append_singleton steps step => exact ⟨⟨steps⟩, step, rfl⟩

theorem wayFrom_concat (done : ConfigPath) (steps : List Step) (step : Step) :
    done.wayFrom (steps ++ [step]) =
      done.wayFrom steps ++ [(⟨done.steps ++ steps⟩ : ConfigPath).snoc step] := by
  induction steps generalizing done with
  | nil => rw [mk_append_nil, List.nil_append, wayFrom, wayFrom, wayFrom, List.nil_append]
  | cons first rest ih => rw [List.cons_append, wayFrom, ih, wayFrom, mk_append_cons, List.cons_append]

/-- The way to a path one step further ends with that path. -/
theorem way_snoc (path : ConfigPath) (step : Step) :
    (path.snoc step).way = path.way ++ [path.snoc step] :=
  wayFrom_concat root path.steps step

theorem snoc_not_mem_way (path : ConfigPath) (step : Step) : path.snoc step ∉ path.way := by
  intro h
  have hlength := (mem_way.mp h).2.length_le
  rw [snoc_steps, List.length_append, List.length_singleton] at hlength
  omega

/-- All but the last path of a way are those above its end. -/
theorem mem_way_dropLast {path p : ConfigPath} :
    p ∈ path.way.dropLast ↔ p ∈ path.way ∧ p ≠ path := by
  cases hroot : path.isRoot with
  | true =>
    obtain rfl := isRoot_iff.mp hroot
    have hway : root.way = [] := rfl
    simp [hway]
  | false =>
    obtain ⟨above, step, rfl⟩ := exists_eq_snoc hroot
    rw [way_snoc, List.dropLast_concat, List.mem_append, List.mem_singleton]
    constructor
    · intro hp
      exact ⟨.inl hp, fun heq => snoc_not_mem_way above step (heq ▸ hp)⟩
    · rintro ⟨hp | hp, hne⟩
      · exact hp
      · exact absurd hp hne

end ConfigPath

namespace Demand

variable {ds es : List Demand} {d : Demand} {k : String}

/-- A key on the ways of the demands belongs to one path. -/
def OnePath (ds : List Demand) : Prop :=
  ∀ p ∈ ways ds, ∀ q ∈ ways ds, p.key = q.key → p = q

theorem OnePath.mono (h : OnePath es) (hsub : ds ⊆ es) : OnePath ds :=
  fun p hp q hq => h p (ways_subset hsub hp) q (ways_subset hsub hq)

theorem Compatible.left (h : Compatible (ds ++ es)) : Compatible ds := fun d hd =>
  ⟨(h d (List.mem_append_left _ hd)).1, fun p hp hne =>
    latest?_eq_none_of_initial (List.prefix_append ds es)
      ((h d (List.mem_append_left _ hd)).2 p hp hne)⟩

theorem Compatible.right (h : Compatible (ds ++ es)) : Compatible es := by
  intro d hd
  obtain ⟨hroot, habove⟩ := h d (List.mem_append_right _ hd)
  refine ⟨hroot, fun p hp hne => ?_⟩
  have hnone := habove p hp hne
  rw [latest?_append, Option.or_eq_none_iff] at hnone
  exact hnone.1

/-- The edits for demands, in order. -/
def editAll : List Demand → Definitions.Edit Unit
  | [] => return ()
  | d :: rest => do
    d.edit
    editAll rest

theorem editAll_append (ds es : List Demand) :
    editAll (ds ++ es) = (do editAll ds; editAll es) := by
  induction ds with
  | nil => exact (pure_bind () fun _ => editAll es).symm
  | cons d ds ih => simp only [List.cons_append, editAll, ih, bind_assoc]

theorem ways_singleton (d : Demand) : ways [d] = d.path.way := by
  rw [ways, List.flatMap_singleton]

/-- Where one demand only has a key, its value counts. -/
theorem latest?_of_unique (hd : d ∈ ds) (hone : ∀ e ∈ ds, e.path.key = d.path.key → e = d) :
    latest? ds d.path.key = if d.value = .empty then none else some d.value := by
  split
  case isTrue hempty =>
    cases hlatest : latest? ds d.path.key with
    | none => rfl
    | some v =>
      obtain ⟨hv, e, he, hkey, rfl⟩ := of_latest?_eq_some hlatest
      rw [hone e he hkey] at hv
      exact absurd hempty hv
  case isFalse hvalue =>
    obtain ⟨v, hv⟩ := Option.ne_none_iff_exists'.mp (latest?_ne_none hd hvalue)
    obtain ⟨-, e, he, hkey, rfl⟩ := of_latest?_eq_some hv
    rw [hv, hone e he hkey]

theorem latest?_nil (k : String) : latest? [] k = none := rfl

theorem latest?_eq_none_of_ways (hroot : ∀ d ∈ ds, d.path.isRoot = false)
    (h : ∀ p ∈ ways ds, p.key ≠ k) : latest? ds k = none :=
  latest?_eq_none_of_find? hroot (List.find?_eq_none.mpr fun p hp => by simpa using h p hp)

end Demand

theorem Definition.mk_fields (d : Definition) :
    Definition.mk d.segment d.parent d.node d.parentNode d.comment d.value d.children = d := by
  cases d
  rfl

namespace Definitions

open Demand

variable {t u t' : Definitions} {ds es rest : List Demand} {d : Demand} {k : String}

/-! ## 2. What a tree admits -/

/-- Whether the definition of a key holds a value. -/
def hasValue (t : Definitions) (k : String) : Bool := (t.get? k).any (·.isLeaf)

/-- Whether the definition of a key has others below it. -/
def hasChildren (t : Definitions) (k : String) : Bool := (t.get? k).any (!·.children.isEmpty)

/-- A demand is admitted where nothing above its path holds a value and, if it asks for a value,
nothing stands below its path. -/
structure Admits (t : Definitions) (d : Demand) : Prop where
  above : ∀ p ∈ d.path.way.dropLast, t.hasValue p.key = false
  below : d.value ≠ .empty → t.hasChildren d.path.key = false

theorem firstLeaf?_eq_none_iff {ps : List ConfigPath} :
    t.firstLeaf? ps = none ↔ ∀ p ∈ ps, t.hasValue p.key = false := by
  simp [firstLeaf?, hasValue]

theorem hasValue_eq (t : Definitions) (k : String) :
    t.hasValue k = (t.value? k).any (!·.isEmpty) := by
  rw [hasValue, value?, Option.any_map]
  rfl

/-- A definition has others below it when one names it as its parent. -/
theorem Indexed.hasChildren_iff (h : Indexed t) : t.hasChildren k = true ↔
    ∃ l f, t.face? l = some f ∧ f.parent.isRoot = false ∧ f.parent.key = k := by
  rw [hasChildren, Option.any_eq_true]
  constructor
  · rintro ⟨x, hx, hchildren⟩
    obtain ⟨l, -, hl, hkey⟩ := h.get?_eq_some.mp hx
    obtain ⟨c, rest, hc⟩ := List.exists_cons_of_ne_nil (by simpa using hchildren)
    obtain ⟨hat, hroot, hparent, -⟩ := h.at?_child hl (i := 0) (c := c) (by rw [hc]; rfl)
    exact ⟨_, c.bare, face?_of_at? hat, hroot, hparent.trans hkey⟩
  · rintro ⟨l, f, hf, hroot, rfl⟩
    obtain ⟨c, hc, rfl⟩ := face?_eq_some.mp hf
    have hcwalk : c ∈ t.walk := Definition.mem_walkAll.mpr ⟨l, hc⟩
    rcases Definition.mem_or_child_of_mem_walkAll hcwalk with hmem | ⟨y, hy, hmem⟩
    · rw [Definition.bare_parent, (h.mem_roots hcwalk).mp hmem] at hroot
      cases hroot
    · have hkey := (h.child_of_mem hy hmem).2.1
      refine ⟨y, ?_, by simpa using List.ne_nil_of_mem hmem⟩
      rw [Definition.bare_parent, hkey]
      exact h.mem_walk.mp hy

/-! ## 3. Trees with demands laid over them -/

/-- A definition for one more step has been made below a path, after all that stood there, and has a
value. -/
def Appended (t : Definitions) (p : ConfigPath) (step : Step) (v : Value) (t' : Definitions) : Prop :=
  ∃ loc i, t'.Stands p loc ∧ t'.index.get? (p.snoc step).key = some (loc ++ [i]) ∧
    t'.face? (loc ++ [i]) = some { Definition.bound t.schema p step.segment with value := v } ∧
    ∀ j f, t.face? (loc ++ [j]) = some f → j < i

/-- The tree after demands have been laid over another. -/
structure Overlaid (t : Definitions) (ds : List Demand) (t' : Definitions) : Prop where
  indexed : Indexed t'
  schema : t'.schema = t.schema
  policy : t'.policy = t.policy
  /-- What was there is where it was and as it was, but for its value if one was asked for. -/
  kept : ∀ l f, t.face? l = some f →
    t'.face? l = some { f with value := (latest? ds f.key).getD f.value }
  index_kept : ∀ k l, t.index.get? k = some l → t'.index.get? k = some l
  binding_kept : ∀ k, t.contains k = true → t'.binding? k = t.binding? k
  /-- What was missing on the ways of the demands has been made, and nothing else. -/
  contains : ∀ k, t'.contains k = true ↔ t.contains k = true ∨ ∃ p ∈ ways ds, p.key = k
  /-- What has been made has the value that was asked for. -/
  made : ∀ p step, p.snoc step ∈ ways ds → t.contains (p.snoc step).key = false →
    Appended t p step ((latest? ds (p.snoc step).key).getD .empty) t'

theorem Overlaid.refl (h : Indexed t) : Overlaid t [] t where
  indexed := h
  schema := rfl
  policy := rfl
  kept l f hf := by rw [latest?_nil, Option.getD_none, Definition.mk_fields, hf]
  index_kept _ _ hk := hk
  binding_kept _ _ := rfl
  contains k := by simp [ways]
  made p step hp := absurd hp List.not_mem_nil

/-- What is made last stands after all that was there. -/
theorem lt_of_last {loc : Location} {i : Nat} (h : Indexed t)
    (hkept : ∀ l f, t.face? l = some f → ∃ f', t'.face? l = some f' ∧ f'.key = f.key)
    {f' : Definition} (hf' : t'.face? (loc ++ [i]) = some f') (hmissing : t.contains f'.key = false)
    (hlast : ∀ j, i < j → t'.face? (loc ++ [j]) = none) :
    ∀ j f, t.face? (loc ++ [j]) = some f → j < i := by
  intro j f hf
  obtain ⟨g, hg, hkey⟩ := hkept _ f hf
  rcases Nat.lt_trichotomy j i with hlt | rfl | hgt
  · exact hlt
  · obtain rfl := Option.some.inj (hg.symm.trans hf')
    rw [hkey, contains_eq_false_iff, h.index_iff.mpr ⟨f, hf, rfl⟩] at hmissing
    cases hmissing
  · rw [hlast j hgt] at hg
    cases hg

theorem Completed.overlaid {path : ConfigPath} (h : Indexed t) (ht' : Indexed t')
    (hschema : t'.schema = t.schema) (hpolicy : t'.policy = t.policy)
    (hc : Completed path.way t t') : Overlaid t [{ path }] t' := by
  have hlatest : ∀ k, latest? [{ path }] k = none := fun k => by simp [latest?_singleton]
  constructor
  case kept =>
    intro l f hf
    rw [hlatest, Option.getD_none, Definition.mk_fields]
    exact hc.kept l f hf
  case contains =>
    rw [ways_singleton]
    exact hc.contains
  case made =>
    intro p step hp hmissing
    rw [ways_singleton] at hp
    obtain ⟨loc, i, hs, hi, hf, hlast⟩ := hc.made p step hp hmissing
    refine ⟨loc, i, hs, hi, by rw [hlatest]; exact hf, ?_⟩
    refine lt_of_last h (fun l f hf => ⟨f, hc.kept l f hf, rfl⟩) hf ?_ hlast
    rwa [Definition.key_bound]
  all_goals first | assumption | exact hc.index_kept | exact hc.binding_kept

theorem ValueSet.overlaid {path : ConfigPath} {v : Value} (h : Indexed t) (hv : v ≠ .empty)
    (hset : ValueSet t path v t') : Overlaid t [⟨path, v⟩] t' := by
  have hlatest : ∀ k, latest? [⟨path, v⟩] k = if path.key = k then some v else none := fun k => by
    simp [latest?_singleton, hv]
  constructor
  case indexed => exact hset.indexed
  case schema => exact hset.schema
  case policy => exact hset.policy
  case index_kept => exact hset.index_kept
  case binding_kept => exact hset.binding_kept
  case kept =>
    intro l f hf
    rw [hset.kept l f hf, hlatest]
    by_cases hkey : f.key = path.key
    · rw [if_pos hkey, if_pos hkey.symm, Option.getD_some]
    · rw [if_neg hkey, if_neg (Ne.symm hkey), Option.getD_none, Definition.mk_fields]
  case contains =>
    rw [ways_singleton]
    exact hset.contains
  case made =>
    intro p step hp hmissing
    rw [ways_singleton] at hp
    obtain ⟨loc, i, hs, hi, hf, hlast⟩ := hset.made p step hp hmissing
    refine ⟨loc, i, hs, hi, ?_, ?_⟩
    · rw [hf, hlatest]
      by_cases hkey : (p.snoc step).key = path.key
      · rw [if_pos hkey, if_pos hkey.symm, Option.getD_some]
        rfl
      · rw [if_neg hkey, if_neg (Ne.symm hkey), Option.getD_none]
        rfl
    · refine lt_of_last h (fun l f hf => ⟨_, hset.kept l f hf, ?_⟩) hf ?_ hlast
      · split <;> rfl
      · exact (congrArg t.contains (Definition.key_bound t.schema p step)).trans hmissing

section Trans

variable (h : Overlaid t ds u) (h' : Overlaid u es t')
include h h'

/-- What the first demands made, the others leave but for its value; what these make was missing
before as well. -/
theorem Overlaid.made_trans (hone : OnePath (ds ++ es)) (hroot : ∀ d ∈ ds, d.path.isRoot = false)
    {p : ConfigPath} {step : Step} (hp : p.snoc step ∈ ways (ds ++ es))
    (hmissing : t.contains (p.snoc step).key = false) :
    Appended t p step ((latest? (ds ++ es) (p.snoc step).key).getD .empty) t' := by
  rw [latest?_append]
  cases hthere : u.contains (p.snoc step).key with
  | true =>
    have hfirst : p.snoc step ∈ ways ds := by
      rcases (h.contains _).mp hthere with ht | ⟨q, hq, hkey⟩
      · rw [hmissing] at ht
        cases ht
      · obtain rfl := hone q (by rw [ways_append]; exact List.mem_append_left _ hq) _ hp hkey
        exact hq
    obtain ⟨loc, i, hs, hi, hf, hlast⟩ := h.made p step hfirst hmissing
    refine ⟨loc, i, hs.kept h'.index_kept, h'.index_kept _ _ hi, ?_, hlast⟩
    have hkey : ({ Definition.bound t.schema p step.segment with
        value := (latest? ds (p.snoc step).key).getD .empty } : Definition).key =
          (p.snoc step).key := Definition.key_bound t.schema p step
    rw [h'.kept _ _ hf, hkey]
    cases latest? es (p.snoc step).key <;> rfl
  | false =>
    have hkeys : ∀ q ∈ ways ds, q.key ≠ (p.snoc step).key := by
      intro q hq hkey
      rw [(h.contains _).mpr (.inr ⟨q, hq, hkey⟩)] at hthere
      cases hthere
    have hsecond : p.snoc step ∈ ways es := by
      rw [ways_append] at hp
      exact (List.mem_append.mp hp).resolve_left fun hfirst => hkeys _ hfirst rfl
    obtain ⟨loc, i, hs, hi, hf, hlast⟩ := h'.made p step hsecond hthere
    refine ⟨loc, i, hs, hi, ?_, fun j f hj => hlast j _ (h.kept _ f hj)⟩
    rw [hf, h.schema, latest?_eq_none_of_ways hroot hkeys, Option.or_none]

theorem Overlaid.trans (hone : OnePath (ds ++ es)) (hroot : ∀ d ∈ ds, d.path.isRoot = false) :
    Overlaid t (ds ++ es) t' where
  indexed := h'.indexed
  schema := h'.schema.trans h.schema
  policy := h'.policy.trans h.policy
  kept l f hf := by
    rw [h'.kept l _ (h.kept l f hf), latest?_append]
    show some { f with value := (latest? es f.key).getD ((latest? ds f.key).getD f.value) } = _
    cases latest? es f.key <;> rfl
  index_kept k l hk := h'.index_kept k l (h.index_kept k l hk)
  binding_kept k hk := by
    rw [h'.binding_kept k ((h.contains k).mpr (.inl hk)), h.binding_kept k hk]
  contains k := by
    rw [h'.contains, h.contains, ways_append, or_assoc]
    simp only [List.mem_append, or_and_right, exists_or]
  made p step hp hmissing := h.made_trans h' hone hroot hp hmissing

end Trans

/-! ## 4. What is admitted afterwards -/

section Admits

variable (h : Overlaid t ds u) (ht : Indexed t)
include h ht

theorem Overlaid.value?_of_contains (hk : t.contains k = true) :
    u.value? k = (t.value? k).map fun v => (latest? ds k).getD v := by
  rw [ht.contains_eq, Option.isSome_iff_exists] at hk
  obtain ⟨d, hd⟩ := hk
  obtain ⟨l, hl, hat, rfl⟩ := ht.get?_eq_some.mp hd
  have hface := face?_of_at? hat
  rw [value?_eq_some.mpr ⟨l, _, hl, hface, rfl⟩]
  exact value?_eq_some.mpr ⟨l, _, h.index_kept _ _ hl, h.kept l _ hface, rfl⟩

omit ht in
theorem Overlaid.value?_of_made {p : ConfigPath} (hp : p ∈ ways ds)
    (hmissing : t.contains p.key = false) :
    u.value? p.key = some ((latest? ds p.key).getD .empty) := by
  obtain ⟨d, -, hway⟩ := mem_ways.mp hp
  obtain ⟨above, step, rfl⟩ := ConfigPath.exists_eq_snoc (ConfigPath.mem_way.mp hway).1
  obtain ⟨loc, i, -, hi, hf, -⟩ := h.made above step hp hmissing
  exact value?_eq_some.mpr ⟨_, _, hi, hf, rfl⟩

/-- What is demanded has the value that is asked for, or else the one that it had. -/
theorem Overlaid.value?_of_mem_ways {p : ConfigPath} (hp : p ∈ ways ds) :
    u.value? p.key = some ((latest? ds p.key).getD ((t.value? p.key).getD .empty)) := by
  cases hk : t.contains p.key with
  | true =>
    obtain ⟨v, hv⟩ := Option.ne_none_iff_exists'.mp fun hnone => by
      rw [(value?_eq_none ht).mp hnone |> contains_eq_false_iff.mpr] at hk
      cases hk
    rw [h.value?_of_contains ht hk, hv]
    rfl
  | false =>
    rw [h.value?_of_made hp hk, (value?_eq_none ht).mpr (contains_eq_false_iff.mp hk)]
    rfl

/-- Where no value is asked for, a key has a value afterwards if it had one. -/
theorem Overlaid.hasValue_iff (hlatest : latest? ds k = none) : u.hasValue k = t.hasValue k := by
  rw [hasValue_eq u, hasValue_eq t]
  cases hk : t.contains k with
  | true =>
    rw [h.value?_of_contains ht hk, hlatest, Option.any_map]
    rfl
  | false =>
    have hnone : t.value? k = none := (value?_eq_none ht).mpr (contains_eq_false_iff.mp hk)
    rw [hnone]
    cases hu : u.contains k with
    | true =>
      obtain ⟨p, hp, rfl⟩ := ((h.contains k).mp hu).resolve_left (by simp [hk])
      rw [h.value?_of_made hp hk, hlatest]
      rfl
    | false => rw [(value?_eq_none h.indexed).mpr (contains_eq_false_iff.mp hu)]

/-- What stands in the tree afterwards was there before, or has been made. -/
theorem Overlaid.face?_cases {l : Location} {f : Definition} (hf : u.face? l = some f) :
    (∃ g, t.face? l = some g ∧ f = { g with value := (latest? ds g.key).getD g.value }) ∨
      ∃ p step, p.snoc step ∈ ways ds ∧ f = { Definition.bound t.schema p step.segment with
        value := (latest? ds (p.snoc step).key).getD .empty } := by
  have hl : u.index.get? f.key = some l := h.indexed.index_iff.mpr ⟨f, hf, rfl⟩
  cases hk : t.contains f.key with
  | true =>
    obtain ⟨d, hd⟩ := Option.isSome_iff_exists.mp ((ht.contains_eq f.key).symm.trans hk)
    obtain ⟨m, hm, hat, -⟩ := ht.get?_eq_some.mp hd
    obtain rfl := Option.some.inj ((h.index_kept _ _ hm).symm.trans hl)
    have hface := face?_of_at? hat
    exact .inl ⟨_, hface, Option.some.inj (hf.symm.trans (h.kept m _ hface))⟩
  | false =>
    have hu : u.contains f.key = true := by
      rw [Definitions.contains, Dictionary.contains, hl, Option.isSome_some]
    obtain ⟨q, hq, hkey⟩ := ((h.contains _).mp hu).resolve_left (by simp [hk])
    obtain ⟨d, -, hway⟩ := mem_ways.mp hq
    obtain ⟨p, step, rfl⟩ := ConfigPath.exists_eq_snoc (ConfigPath.mem_way.mp hway).1
    obtain ⟨loc, i, -, hi, hface, -⟩ := h.made p step hq (by rwa [hkey])
    rw [hkey, hl] at hi
    obtain rfl := Option.some.inj hi
    exact .inr ⟨p, step, hq, Option.some.inj (hf.symm.trans hface)⟩

/-- What stands where a demand goes belongs to its way, as it did before. -/
theorem Overlaid.ownWay (hone : OnePath es) (hsub : ds ⊆ es) (hd : d ∈ es)
    (how : t.OwnWay d.path) : u.OwnWay d.path := by
  intro p hp x hx
  obtain ⟨l, -, hat, hkey⟩ := h.indexed.get?_eq_some.mp hx
  rcases h.face?_cases ht (face?_of_at? hat) with ⟨g, hg, hx'⟩ | ⟨q, step, hq, hx'⟩
  · obtain ⟨y, hy, rfl⟩ := face?_eq_some.mp hg
    have hykey : y.key = p.key := (congrArg (·.key) hx').symm.trans hkey
    have hyget : t.get? p.key = some y := hykey ▸ ht.get?_of_at? hy
    exact (congrArg (·.fullPath.literal) hx').trans (how p hp y hyget)
  · have hqkey : (q.snoc step).key = p.key :=
      (Definition.key_bound t.schema q step).symm.trans
        ((congrArg (·.key) hx').symm.trans hkey)
    rw [← hone _ (ways_subset hsub hq) p (mem_ways.mpr ⟨d, hd, hp⟩) hqkey]
    refine (congrArg (·.fullPath.literal) hx').trans ?_
    show (q.append [step.segment]).literal = _
    rw [ConfigPath.append_segment]

/-- Nothing has been made below the path of a demand for a value. -/
theorem Overlaid.hasChildren_eq (hcompatible : Compatible (ds ++ d :: rest))
    (hvalue : d.value ≠ .empty) :
    u.hasChildren d.path.key = t.hasChildren d.path.key := by
  rw [Bool.eq_iff_iff, h.indexed.hasChildren_iff, ht.hasChildren_iff]
  constructor
  · rintro ⟨l, f, hf, hroot, hparent⟩
    rcases h.face?_cases ht hf with ⟨g, hg, rfl⟩ | ⟨p, step, hp, rfl⟩
    · exact ⟨l, g, hg, hroot, hparent⟩
    · -- the definition would stand on the way to a demand, whose path goes on from a value
      exfalso
      have hproot : p.isRoot = false := hroot
      have hpkey : p.key = d.path.key := hparent
      obtain ⟨e, he, hway⟩ := mem_ways.mp hp
      have heall : e ∈ ds ++ d :: rest := List.mem_append_left _ he
      have hpway : p ∈ e.path.way := by
        obtain ⟨-, hstarts⟩ := ConfigPath.mem_way.mp hway
        exact ConfigPath.mem_way.mpr ⟨hproot, (List.prefix_append p.steps [step]).trans hstarts⟩
      have hne : p ≠ e.path := by
        rintro rfl
        have hlength := (ConfigPath.mem_way.mp hway).2.length_le
        rw [ConfigPath.snoc_steps, List.length_append, List.length_singleton] at hlength
        omega
      have hnone := (hcompatible e heall).2 p hpway hne
      rw [hpkey] at hnone
      exact latest?_ne_none (List.mem_append_right _ List.mem_cons_self) hvalue hnone
  · rintro ⟨l, f, hf, hroot, hparent⟩
    exact ⟨l, _, h.kept l f hf, hroot, hparent⟩

/-- The tree afterwards admits a demand that is still to come if the tree before did. -/
theorem Overlaid.admits_iff (hcompatible : Compatible (ds ++ d :: rest)) : u.Admits d ↔ t.Admits d := by
  have hd : d ∈ ds ++ d :: rest := List.mem_append_right _ List.mem_cons_self
  have habove : ∀ p ∈ d.path.way.dropLast, u.hasValue p.key = t.hasValue p.key := by
    intro p hp
    have hpway := ConfigPath.mem_way_dropLast.mp hp
    refine h.hasValue_iff ht (latest?_eq_none_of_initial (List.prefix_append ds (d :: rest)) ?_)
    exact (hcompatible d hd).2 p hpway.1 hpway.2
  have hbelow : d.value ≠ .empty → u.hasChildren d.path.key = t.hasChildren d.path.key :=
    h.hasChildren_eq ht hcompatible
  constructor
  · rintro ⟨hu, hu'⟩
    exact ⟨fun p hp => (habove p hp).symm.trans (hu p hp),
      fun hvalue => (hbelow hvalue).symm.trans (hu' hvalue)⟩
  · rintro ⟨ht, ht'⟩
    exact ⟨fun p hp => (habove p hp).trans (ht p hp),
      fun hvalue => (hbelow hvalue).trans (ht' hvalue)⟩

end Admits

/-! ## 5. Demands one after the other -/

/-- A value is refused, by a tree that lets values be replaced, where the demand is not admitted. -/
theorem refusal?_eq_none_iff {path : ConfigPath} {v : Value} (hpolicy : t.policy = .warn)
    (hv : v ≠ .empty) : t.refusal? path = none ↔ t.Admits ⟨path, v⟩ := by
  have habove : t.firstLeaf? path.way.dropLast = none ↔
      ∀ p ∈ path.way.dropLast, t.hasValue p.key = false := firstLeaf?_eq_none_iff
  unfold refusal?
  rw [← hasChildren]
  cases hbelow : t.hasChildren path.key with
  | true =>
    refine iff_of_false (by simp) fun h => ?_
    have := h.below hv
    rw [hbelow] at this
    cases this
  | false =>
    rw [if_neg Bool.false_ne_true, if_neg (by simp [hpolicy]), Option.map_eq_none_iff, habove]
    exact ⟨fun h => ⟨h, fun _ => hbelow⟩, fun h => h.above⟩

/-- Where its keys belong to its way, a demand succeeds if it is admitted and not otherwise, and is
then laid over the tree. -/
theorem edit_outcome (h : Indexed t) (hpolicy : t.policy = .warn) (hroot : d.path.isRoot = false)
    (how : t.OwnWay d.path) : ((∃ t', d.edit t = .ok () t') ↔ t.Admits d) ∧
      ∀ t', d.edit t = .ok () t' → Overlaid t [d] t' := by
  obtain ⟨path, value⟩ := d
  by_cases hvalue : value = .empty
  · subst hvalue
    have hadmits : t.Admits { path } ↔ t.firstLeaf? path.way.dropLast = none := by
      rw [firstLeaf?_eq_none_iff]
      exact ⟨fun h => h.above, fun h => ⟨h, fun hne => absurd rfl hne⟩⟩
    have houtcome := ensure_outcome h hroot how
    rw [hadmits]
    split at houtcome
    case h_1 p hleaf =>
      have herror : Demand.edit { path } t = .error (.notContainer p.key) t :=
        bind_of_error houtcome
      rw [herror, hleaf]
      exact ⟨by simp, fun _ h => by cases h⟩
    case h_2 hleaf =>
      obtain ⟨l, t', hrun, hcompleted⟩ := houtcome
      have hchanges := (keeps_ensure path).changes h hrun
      have hok : Demand.edit { path } t = .ok () t' := bind_of_ok hrun
      rw [hok]
      refine ⟨iff_of_true ⟨t', rfl⟩ hleaf, ?_⟩
      rintro _ ⟨⟩
      exact hcompleted.overlaid h (h.changes hchanges) hchanges.schema_eq hchanges.policy_eq
  · have hedit : Demand.edit ⟨path, value⟩ = setValue path value := by
      cases value with
      | empty => exact absurd rfl hvalue
      | single text => rfl
      | multi texts => rfl
    have houtcome := setValue_outcome h hroot how value
    rw [hedit, ← refusal?_eq_none_iff hpolicy hvalue]
    split at houtcome
    case h_1 cause hrefused =>
      rw [houtcome, hrefused]
      exact ⟨by simp, fun _ h => by cases h⟩
    case h_2 hrefused =>
      obtain ⟨t', hok, hset⟩ := houtcome
      rw [hok]
      refine ⟨iff_of_true ⟨t', rfl⟩ hrefused, ?_⟩
      rintro _ ⟨⟩
      exact hset.overlaid h hvalue

/-- Demands that can be told by their keys, want nothing at the root path and no value above another
path, and go only where keys belong to their ways. -/
structure Fitting (t : Definitions) (ds : List Demand) : Prop where
  one : OnePath ds
  compatible : Compatible ds
  own : ∀ d ∈ ds, t.OwnWay d.path

/-- Demands one after the other succeed exactly when the tree admits each of them, and are then laid
over it. -/
theorem Overlaid.editAll (h : Overlaid t ds u) (ht : Indexed t) (hpolicy : t.policy = .warn)
    (hfitting : t.Fitting (ds ++ es)) :
    ((∃ t', Demand.editAll es u = .ok () t') ↔ ∀ d ∈ es, t.Admits d) ∧
      ∀ t', Demand.editAll es u = .ok () t' → Overlaid t (ds ++ es) t' := by
  induction es generalizing ds u with
  | nil =>
    have hrun : Demand.editAll [] u = .ok () u := rfl
    rw [hrun, List.append_nil]
    refine ⟨iff_of_true ⟨u, rfl⟩ (by simp), ?_⟩
    rintro _ ⟨⟩
    exact h
  | cons d rest ih =>
    have hd : d ∈ ds ++ d :: rest := List.mem_append_right _ List.mem_cons_self
    have hsplit : ds ++ d :: rest = (ds ++ [d]) ++ rest := by simp
    have hroot : ∀ e ∈ ds, e.path.isRoot = false := fun e he =>
      (hfitting.compatible e (List.mem_append_left _ he)).1
    have how : u.OwnWay d.path :=
      h.ownWay ht hfitting.one (List.subset_append_left _ _) hd (hfitting.own d hd)
    obtain ⟨hiff, hlaid⟩ := edit_outcome h.indexed (h.policy.trans hpolicy)
      (hfitting.compatible d hd).1 how
    rw [h.admits_iff ht hfitting.compatible] at hiff
    have hnext : ∀ v, d.edit u = .ok () v → Overlaid t (ds ++ [d]) v := fun v hv =>
      h.trans (hlaid v hv) (hfitting.one.mono (by rw [hsplit]; exact List.subset_append_left _ _))
        hroot
    rw [hsplit] at hfitting ⊢
    constructor
    · rw [List.forall_mem_cons, ← hiff]
      constructor
      · rintro ⟨t', hrun⟩
        obtain ⟨_, v, hv, hrest⟩ := bind_eq_ok.mp hrun
        exact ⟨⟨v, hv⟩, (ih (hnext v hv) hfitting).1.mp ⟨t', hrest⟩⟩
      · rintro ⟨⟨v, hv⟩, hrest⟩
        obtain ⟨t', hrun⟩ := (ih (hnext v hv) hfitting).1.mpr hrest
        exact ⟨t', bind_eq_ok.mpr ⟨(), v, hv, hrun⟩⟩
    · intro t' hrun
      obtain ⟨_, v, hv, hrest⟩ := bind_eq_ok.mp hrun
      exact (ih (hnext v hv) hfitting).2 t' hrest

/-- What of a list of demands is still to come fits the tree afterwards. -/
theorem Overlaid.fitting (h : Overlaid t ds u) (ht : Indexed t) (hfitting : t.Fitting (ds ++ es)) :
    u.Fitting es where
  one := hfitting.one.mono (List.subset_append_right _ _)
  compatible := hfitting.compatible.right
  own d hd := h.ownWay ht hfitting.one (List.subset_append_left _ _) (List.mem_append_right _ hd)
    (hfitting.own d (List.mem_append_right _ hd))

/-- Of two definitions that are made below one path, the one that is demanded first stands first. -/
theorem editAll_order (ht : Indexed t) (hpolicy : t.policy = .warn)
    (hfitting : t.Fitting (ds ++ es)) (hrun : Demand.editAll (ds ++ es) t = .ok () t')
    {p : ConfigPath} {first second : Step} (hfirst : p.snoc first ∈ ways ds)
    (hsecond : p.snoc second ∈ ways es) (hmissing : t.contains (p.snoc first).key = false)
    (hmissing' : t.contains (p.snoc second).key = false)
    (hlater : ∀ q ∈ ways ds, q.key ≠ (p.snoc second).key) :
    ∃ loc i j, t'.index.get? (p.snoc first).key = some (loc ++ [i]) ∧
      t'.index.get? (p.snoc second).key = some (loc ++ [j]) ∧ i < j := by
  rw [Demand.editAll_append] at hrun
  obtain ⟨_, u, hu, hrest⟩ := bind_eq_ok.mp hrun
  have hbefore : t.Fitting ([] ++ ds) := by
    rw [List.nil_append]
    exact ⟨hfitting.one.mono (List.subset_append_left _ _), hfitting.compatible.left,
      fun d hd => hfitting.own d (List.mem_append_left _ hd)⟩
  have hlaid : Overlaid t ds u := ((Overlaid.refl ht).editAll ht hpolicy hbefore).2 u hu
  have hafter : u.Fitting ([] ++ es) := hlaid.fitting ht hfitting
  have hlaid' : Overlaid u es t' := ((Overlaid.refl hlaid.indexed).editAll hlaid.indexed
    (hlaid.policy.trans hpolicy) hafter).2 t' hrest
  have hnew : u.contains (p.snoc second).key = false := by
    rw [← Bool.not_eq_true, hlaid.contains, not_or, Bool.not_eq_true]
    exact ⟨hmissing', fun ⟨q, hq, hkey⟩ => hlater q hq hkey⟩
  obtain ⟨loc, i, hs, hi, hf, -⟩ := hlaid.made p first hfirst hmissing
  obtain ⟨loc', j, hs', hj, -, hlast⟩ := hlaid'.made p second hsecond hnew
  obtain rfl := (hs.kept hlaid'.index_kept).unique hs'
  exact ⟨loc, i, j, hlaid'.index_kept _ _ hi, hj, hlast i _ hf⟩

end Definitions

end RouterConfig
