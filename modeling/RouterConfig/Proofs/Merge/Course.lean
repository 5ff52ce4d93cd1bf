/-
RouterConfig.Proofs.Merge.Course — what a merge does, definition by
definition.

The merge visits the source in the order of its walk. A definition whose
key the target lacks is adopted with all below it (`missingAll`). One
whose key the target has is shared (`sharedAll`): the two values have to
be equal, and the merge goes on with the children. `absorbAll_outcome`
says of every run that it either agrees with all that is shared and adopts
all that is missing, or stops at the first shared definition with another
value. Adopting itself never fails.
-/
import RouterConfig.Proofs.Merge.Adoption

namespace RouterConfig

namespace Definitions

open Definition

/-! ## 1. What the merge visits -/

mutual

/-- The largest branches of a definition whose keys the tree lacks, in the order of the walk. -/
def missing (t : Definitions) : Definition → List Definition
  | d@⟨_, _, _, _, _, _, children⟩ => if t.contains d.key then missingAll t children else [d]

/-- The largest branches of several definitions whose keys the tree lacks. -/
def missingAll (t : Definitions) : List Definition → List Definition
  | [] => []
  | d :: rest => missing t d ++ missingAll t rest

end

mutual

/-- The definitions that the tree has as well, down to the missing branches, in the order of the
walk. -/
def shared (t : Definitions) : Definition → List Definition
  | d@⟨_, _, _, _, _, _, children⟩ => if t.contains d.key then d :: sharedAll t children else []

/-- What several definitions share with the tree. -/
def sharedAll (t : Definitions) : List Definition → List Definition
  | [] => []
  | d :: rest => shared t d ++ sharedAll t rest

end

section Visits

variable {t : Definitions} {d : Definition} (rest : List Definition)

@[simp] theorem missingAll_nil : missingAll t [] = [] := rfl

@[simp] theorem sharedAll_nil : sharedAll t [] = [] := rfl

theorem missingAll_cons_of_missing (h : t.contains d.key = false) :
    missingAll t (d :: rest) = d :: missingAll t rest := by
  obtain ⟨_, _, _, _, _, _, _⟩ := d
  simp [missingAll, missing, h]

theorem missingAll_cons_of_shared (h : t.contains d.key = true) :
    missingAll t (d :: rest) = missingAll t d.children ++ missingAll t rest := by
  obtain ⟨_, _, _, _, _, _, _⟩ := d
  simp [missingAll, missing, h]

theorem sharedAll_cons_of_missing (h : t.contains d.key = false) :
    sharedAll t (d :: rest) = sharedAll t rest := by
  obtain ⟨_, _, _, _, _, _, _⟩ := d
  simp [sharedAll, shared, h]

theorem sharedAll_cons_of_shared (h : t.contains d.key = true) :
    sharedAll t (d :: rest) = d :: (sharedAll t d.children ++ sharedAll t rest) := by
  obtain ⟨_, _, _, _, _, _, _⟩ := d
  simp [sharedAll, shared, h]

end Visits

/-- What the missing branches hold comes in the order of the walk. -/
theorem walkAll_missingAll_sublist (t : Definitions) (ds : List Definition) :
    (walkAll (missingAll t ds)).Sublist (walkAll ds) := by
  induction ds using forest_induction with
  | nil => exact List.Sublist.refl _
  | cons d rest ihd ihr =>
    cases hc : t.contains d.key with
    | false =>
      rw [missingAll_cons_of_missing rest hc, walkAll_cons, walkAll_cons]
      exact (ihr.append_left _).cons_cons d
    | true =>
      rw [missingAll_cons_of_shared rest hc, walkAll_append, walkAll_cons]
      exact (ihd.append ihr).cons d

/-! ## 2. One definition -/

/-- What the tree has under the key of a definition, if anything, has the same value. -/
def Agrees (t : Definitions) (e : Definition) : Prop :=
  ∀ x, t.get? e.key = some x → x.value = e.value

/-- The error for two values that differ. -/
def conflict (key : String) (left right : Value) : MergeError :=
  if left.isEmpty || right.isEmpty then .shapeConflict key else .valueConflict key left right

theorem absorb_missing {t : Definitions} {d : Definition} (h : t.get? d.key = none) :
    absorb d t = adopt d t := by
  obtain ⟨_, _, _, _, _, _, _⟩ := d
  simp only [absorb, get_bind, h]

theorem absorb_found {t : Definitions} {d x : Definition} (h : t.get? d.key = some x) :
    absorb d t = match x.isLeaf, d.isLeaf with
      | true, true =>
        if x.value ≠ d.value then .error (.valueConflict d.key x.value d.value) t else .ok () t
      | false, false => absorbAll d.children t
      | _, _ => .error (.shapeConflict d.key) t := by
  obtain ⟨segment, parent, node, parentNode, comment, value, children⟩ := d
  simp only [absorb, get_bind, h]
  cases x.isLeaf with
  | false => cases isLeaf ⟨segment, parent, node, parentNode, comment, value, children⟩ <;> rfl
  | true =>
    cases isLeaf ⟨segment, parent, node, parentNode, comment, value, children⟩ with
    | false => rfl
    | true =>
      by_cases hv : x.value ≠ value
      · simp only [if_pos hv]
        rfl
      · simp only [if_neg hv]
        rfl

/-- Equal values are left alone, and below two definitions without a value the merge goes on. -/
theorem absorb_agrees {t : Definitions} {d x : Definition} (h : t.get? d.key = some x)
    (hvalue : x.value = d.value) :
    absorb d t = if d.isLeaf then .ok () t else absorbAll d.children t := by
  have hleaf : x.isLeaf = d.isLeaf := by
    rw [isLeaf, isLeaf, hvalue]
  rw [absorb_found h, hleaf]
  cases hd : d.isLeaf with
  | true => simp [hvalue]
  | false => simp

theorem absorb_differs {t : Definitions} {d x : Definition} (h : t.get? d.key = some x)
    (hvalue : x.value ≠ d.value) :
    absorb d t = .error (conflict d.key x.value d.value) t := by
  have hx : x.value.isEmpty = !x.isLeaf := by simp [isLeaf]
  have hd : d.value.isEmpty = !d.isLeaf := by simp [isLeaf]
  rw [absorb_found h, conflict, hx, hd]
  cases hxl : x.isLeaf with
  | true => cases d.isLeaf <;> simp [hvalue]
  | false =>
    cases hdl : d.isLeaf with
    | true => rfl
    | false =>
      -- two definitions without a value have the same one
      have hempty : ∀ v : Value, v.isEmpty = true → v = .empty := by
        intro v hv
        cases v <;> simp_all [Value.isEmpty]
      rw [hxl] at hx
      rw [hdl] at hd
      exact absurd ((hempty _ hx).trans (hempty _ hd).symm) hvalue

/-! ## 3. Runs -/

/-- How the merge of several definitions ends, when the tree `t` has already adopted `branches`. -/
inductive Outcome (t : Definitions) (branches ds : List Definition) :
    EStateM.Result MergeError Definitions Unit → Prop
  /-- All that is shared agrees, and all that is missing is adopted. -/
  | merged {t' : Definitions} (agree : ∀ e ∈ sharedAll t ds, t.Agrees e)
      (adopts : Adopts t (branches ++ missingAll t ds) t') : Outcome t branches ds (.ok () t')
  /-- The first shared definition with another value is named; some that were missing are
  adopted. -/
  | refused {before after begun : List Definition} {e x : Definition} {t' : Definitions}
      (first : sharedAll t ds = before ++ e :: after) (agree : ∀ b ∈ before, t.Agrees b)
      (there : t.get? e.key = some x) (differ : x.value ≠ e.value)
      (part : begun <+: missingAll t ds) (adopts : Adopts t (branches ++ begun) t') :
      Outcome t branches ds (.error (conflict e.key x.value e.value) t')

/-- Definitions that can be merged next: their keys are new, and each belongs below something of the
tree that has no value. -/
structure Fits (t : Definitions) (branches ds : List Definition) : Prop where
  distinct : ((walkAll (branches ++ ds)).map (·.key)).Nodup
  grounded : Grounded ds
  parents : ∀ e ∈ ds, ∃ loc, t.Stands e.parent loc ∧ t.Open loc
  apart : ∀ e ∈ ds, e.parent.isRoot = false →
    e.parent.key ∉ (walkAll (branches ++ ds)).map (·.key)

namespace Fits

variable {t : Definitions} {branches rest : List Definition} {d : Definition}
  (h : Fits t branches (d :: rest))
include h

/-- The next definition has a key that no adopted branch has. -/
theorem key_new : d.key ∉ (walkAll branches).map (·.key) := by
  have hdistinct := h.distinct
  rw [walkAll_append, List.map_append, List.nodup_append] at hdistinct
  intro hmem
  exact hdistinct.2.2 d.key hmem d.key (by simp [walkAll_cons]) rfl

/-- Once some of what a definition holds is adopted, the next ones can be merged. -/
theorem next {more : List Definition} (hmore : (walkAll more).Sublist d.walk) :
    Fits t (branches ++ more) rest := by
  have hsub : (walkAll (branches ++ more ++ rest)).Sublist (walkAll (branches ++ d :: rest)) := by
    rw [List.append_assoc, walkAll_append, walkAll_append, walkAll_append branches (d :: rest)]
    rw [walkAll]
    exact (hmore.append_right _).append_left _
  exact {
    distinct := h.distinct.sublist (hsub.map _)
    grounded := fun p hp => h.grounded p (by
      rw [walkAll_cons]
      exact List.mem_cons_of_mem _ (List.mem_append_right _ hp))
    parents := fun e he => h.parents e (List.mem_cons_of_mem _ he)
    apart := fun e he hroot hmem =>
      h.apart e (List.mem_cons_of_mem _ he) hroot ((hsub.map _).subset hmem) }

/-- Below a shared definition that has no value the children can be merged. -/
theorem below {loc : Location} (hstands : t.index.get? d.key = some loc) (hopen : t.Open loc) :
    Fits t branches d.children := by
  have hdistinct := h.distinct
  rw [walkAll_append, walkAll_cons] at hdistinct
  have hsub : (walkAll (branches ++ d.children)).Sublist
      (walkAll branches ++ (walkAll d.children ++ walkAll rest)) := by
    rw [walkAll_append]
    exact (List.sublist_append_left _ _).append_left _
  have hnodup := hdistinct
  rw [List.map_append, List.map_cons, List.nodup_middle, ← List.map_append,
    List.nodup_cons] at hnodup
  have hparent : ∀ c ∈ d.children, c.parent.isRoot = false ∧ c.parent.key = d.key := by
    intro c hc
    have := h.grounded d (mem_walkAll_of_mem List.mem_cons_self) c hc
    exact ⟨this.1, this.2.1⟩
  exact {
    distinct := hnodup.2.sublist (hsub.map _)
    grounded := fun p hp => h.grounded p (by
      rw [walkAll_cons]
      exact List.mem_cons_of_mem _ (List.mem_append_left _ hp))
    parents := fun c hc => by
      refine ⟨loc, ?_, hopen⟩
      rw [Stands, (hparent c hc).1, (hparent c hc).2]
      exact hstands
    apart := fun c hc _ hmem => by
      rw [(hparent c hc).2] at hmem
      exact hnodup.1 ((hsub.map _).subset hmem) }

end Fits

/-- What a tree has of its own is found in the adopting tree, with its value. -/
theorem Adopts.get?_kept {t t' : Definitions} (ht : Indexed t) {branches : List Definition}
    (h : Adopts t branches t') {k : String} (hk : k ∉ (walkAll branches).map (·.key))
    {x : Definition} (hx : t.get? k = some x) : ∃ x', t'.get? k = some x' ∧ x'.bare = x.bare := by
  obtain ⟨l, hl, hat, -⟩ := ht.get?_eq_some.mp hx
  obtain ⟨x', hx', hbare⟩ := face?_eq_some.mp (h.kept l _ (face?_of_at? hat))
  refine ⟨x', ?_, hbare⟩
  rw [get?, h.index_kept k hk, hl]
  exact hx'

theorem Adopts.get?_eq_none {t t' : Definitions} (ht : Indexed t) {branches : List Definition}
    (h : Adopts t branches t') {k : String} (hk : k ∉ (walkAll branches).map (·.key))
    (hx : t.get? k = none) : t'.get? k = none := by
  rw [get?, h.index_kept k hk, ht.get?_eq_none.mp hx]
  rfl

/-- A definition that fits and whose key the tree lacks is adopted. -/
theorem absorb_adopts {t t' : Definitions} (ht : Indexed t) {branches rest : List Definition}
    {d : Definition} (h : Adopts t branches t') (hfits : Fits t branches (d :: rest))
    (hget : t.get? d.key = none) :
    ∃ t'', absorb d t' = .ok () t'' ∧ Adopts t (branches ++ [d]) t'' := by
  obtain ⟨loc, hstands, hopen⟩ := hfits.parents d List.mem_cons_self
  have hfirst : (walkAll (branches ++ [d])).Sublist (walkAll (branches ++ d :: rest)) := by
    rw [walkAll_append, walkAll_append, walkAll_singleton, walkAll]
    exact (List.sublist_append_left _ _).append_left _
  have hdistinct := hfits.distinct.sublist (hfirst.map (·.key))
  have hparent : d.parent.isRoot = false → d.parent.key ∉ (walkAll branches).map (·.key) := by
    intro hroot hmem
    refine hfits.apart d List.mem_cons_self hroot ?_
    rw [walkAll_append, List.map_append]
    exact List.mem_append_left _ hmem
  obtain ⟨t'', hattach, hadopts⟩ :=
    h.attach ht hdistinct (ht.get?_eq_none.mp hget) hstands hopen hparent
  refine ⟨t'', ?_, hadopts⟩
  rw [absorb_missing (h.get?_eq_none ht hfits.key_new hget), adopt, hattach]

section Cons

variable {t : Definitions} {branches rest : List Definition} {d : Definition}
  {r : EStateM.Result MergeError Definitions Unit}

/-- A branch that was missing is adopted, and the run goes on. -/
theorem Outcome.cons_missing (hc : t.contains d.key = false)
    (h : Outcome t (branches ++ [d]) rest r) : Outcome t branches (d :: rest) r := by
  cases h with
  | merged agree adopts =>
    refine .merged ?_ ?_
    · rwa [sharedAll_cons_of_missing rest hc]
    · rw [missingAll_cons_of_missing rest hc]
      simpa using adopts
  | @refused before after begun e x t'' first agree there differ part adopts =>
    have hfirst : sharedAll t (d :: rest) = before ++ e :: after := by
      rwa [sharedAll_cons_of_missing rest hc]
    have hpart : (d :: begun) <+: missingAll t (d :: rest) := by
      rw [missingAll_cons_of_missing rest hc]
      simpa using part
    exact .refused hfirst agree there differ hpart (by simpa using adopts)

/-- What stops the run below a shared definition stops it. -/
theorem Outcome.cons_refused (hc : t.contains d.key = true) (hself : t.Agrees d)
    {cause : MergeError} {t' : Definitions} (h : Outcome t branches d.children (.error cause t')) :
    Outcome t branches (d :: rest) (.error cause t') := by
  cases h with
  | @refused before after begun e x t'' first agree there differ part adopts =>
    have hfirst : sharedAll t (d :: rest)
        = (d :: before) ++ e :: (after ++ sharedAll t rest) := by
      rw [sharedAll_cons_of_shared rest hc, first, List.append_assoc]
      rfl
    have hbefore : ∀ b ∈ d :: before, t.Agrees b := by
      intro b hb
      rcases List.mem_cons.mp hb with rfl | hb
      · exact hself
      · exact agree b hb
    have hpart : begun <+: missingAll t (d :: rest) := by
      rw [missingAll_cons_of_shared rest hc]
      exact part.trans (List.prefix_append _ _)
    exact .refused hfirst hbefore there differ hpart adopts

/-- After a shared definition and what is below it the run goes on. -/
theorem Outcome.cons_shared (hc : t.contains d.key = true) (hself : t.Agrees d)
    (hbelow : ∀ b ∈ sharedAll t d.children, t.Agrees b)
    (h : Outcome t (branches ++ missingAll t d.children) rest r) :
    Outcome t branches (d :: rest) r := by
  have hbefore : ∀ b ∈ d :: sharedAll t d.children, t.Agrees b := by
    intro b hb
    rcases List.mem_cons.mp hb with rfl | hb
    · exact hself
    · exact hbelow b hb
  cases h with
  | merged agree adopts =>
    refine .merged ?_ ?_
    · rw [sharedAll_cons_of_shared rest hc, ← List.cons_append]
      intro b hb
      rcases List.mem_append.mp hb with hb | hb
      · exact hbefore b hb
      · exact agree b hb
    · rw [missingAll_cons_of_shared rest hc, ← List.append_assoc]
      exact adopts
  | @refused before after begun e x t'' first agree there differ part adopts =>
    have hfirst : sharedAll t (d :: rest)
        = (d :: sharedAll t d.children ++ before) ++ e :: after := by
      rw [sharedAll_cons_of_shared rest hc, first]
      simp
    have hagree : ∀ b ∈ d :: sharedAll t d.children ++ before, t.Agrees b := by
      intro b hb
      rcases List.mem_append.mp hb with hb | hb
      · exact hbefore b hb
      · exact agree b hb
    have hpart : missingAll t d.children ++ begun <+: missingAll t (d :: rest) := by
      rw [missingAll_cons_of_shared rest hc]
      exact (List.prefix_append_right_inj _).mpr part
    refine .refused hfirst hagree there differ hpart ?_
    rw [← List.append_assoc]
    exact adopts

end Cons

/-- Where the values agree, a merge goes on with the children. -/
theorem absorb_outcome {t t' : Definitions} (ht : Indexed t) {branches rest : List Definition}
    {d x : Definition} (h : Adopts t branches t') (hfits : Fits t branches (d :: rest))
    (hget : t.get? d.key = some x) (hvalue : x.value = d.value)
    (hchildren : Fits t branches d.children →
      Outcome t branches d.children (absorbAll d.children t')) :
    Outcome t branches d.children (absorb d t') := by
  obtain ⟨loc, hloc, hat, -⟩ := ht.get?_eq_some.mp hget
  obtain ⟨x', hx', hbare⟩ := h.get?_kept ht hfits.key_new hget
  have hvalue' : x'.value = x.value := by
    rw [← bare_value, hbare, bare_value]
  rw [absorb_agrees hx' (hvalue'.trans hvalue)]
  cases hleaf : d.isLeaf with
  | true =>
    -- a definition with a value has nothing below it
    have hnone : d.children = [] := by
      refine List.eq_nil_iff_forall_not_mem.mpr ?_
      intro c hc
      have := (hfits.grounded d (mem_walkAll_of_mem List.mem_cons_self) c hc).2.2
      simp [isLeaf, this, Value.isEmpty] at hleaf
    rw [hnone]
    exact .merged (by simp) (by simpa using h)
  | false =>
    refine hchildren (hfits.below hloc (open_of_not_isLeaf ?_))
    have : x.isLeaf = d.isLeaf := by rw [isLeaf, isLeaf, hvalue]
    simp [hat, this, hleaf]

/-- **A merge agrees with all that is shared and adopts all that is missing, or it stops at the
first shared definition with another value.** -/
theorem absorbAll_outcome {t : Definitions} (ht : Indexed t) (ds : List Definition)
    {branches : List Definition} {t' : Definitions} (h : Adopts t branches t')
    (hfits : Fits t branches ds) : Outcome t branches ds (absorbAll ds t') := by
  induction ds using forest_induction generalizing branches t' with
  | nil => exact .merged (by simp) (by simpa using h)
  | cons d rest ihd ihr =>
    have hstep : absorbAll (d :: rest) t' = (absorb d >>= fun _ => absorbAll rest) t' := rfl
    cases hget : t.get? d.key with
    | none =>
      have hc := ht.contains_eq_false hget
      obtain ⟨t'', habsorb, hadopts⟩ := absorb_adopts ht h hfits hget
      have hsub : (walkAll [d]).Sublist d.walk := by rw [walkAll_singleton]
      rw [hstep, bind_of_ok habsorb]
      exact .cons_missing hc (ihr hadopts (hfits.next hsub))
    | some x =>
      have hc := ht.contains_of_get? hget
      by_cases hvalue : x.value = d.value
      case neg =>
        obtain ⟨x', hx', hbare⟩ := h.get?_kept ht hfits.key_new hget
        have hvalue' : x'.value = x.value := by
          rw [← bare_value, hbare, bare_value]
        have habsorb : absorb d t' = .error (conflict d.key x.value d.value) t' := by
          rw [absorb_differs hx' (by rwa [hvalue']), hvalue']
        rw [hstep, bind_of_error habsorb]
        have hfirst : sharedAll t (d :: rest)
            = [] ++ d :: (sharedAll t d.children ++ sharedAll t rest) :=
          sharedAll_cons_of_shared rest hc
        exact .refused hfirst (by simp) hget hvalue List.nil_prefix (by simpa using h)
      case pos =>
        have hself : t.Agrees d := by
          intro y hy
          obtain rfl := Option.some.inj (hget.symm.trans hy)
          exact hvalue
        have hd := absorb_outcome ht h hfits hget hvalue (ihd h)
        have hsub : (walkAll (missingAll t d.children)).Sublist d.walk := by
          rw [walk_eq]
          exact (walkAll_missingAll_sublist t d.children).cons d
        cases hr : absorb d t' with
        | error cause t'' =>
          rw [hr] at hd
          rw [hstep, bind_of_error hr]
          exact .cons_refused hc hself hd
        | ok u t'' =>
          rw [hr] at hd
          obtain ⟨agree, adopts⟩ := hd
          rw [hstep, bind_of_ok hr]
          exact .cons_shared hc hself agree (ihr adopts (hfits.next hsub))

/-! ## 4. Trees -/

/-- A tree can be merged from its roots on. -/
theorem Indexed.fits {s : Definitions} (hs : Indexed s) (t : Definitions) :
    Fits t [] s.roots where
  distinct := hs.nodup_keys
  grounded _ hp _ hc := hs.child_of_mem hp hc
  parents e he := by
    have hroot := (hs.mem_roots (mem_walkAll_of_mem he)).mp he
    refine ⟨[], ?_, ?_⟩
    · exact stands_nil t hroot
    · intro f hf
      cases hf
  apart e he hroot := by
    rw [(hs.mem_roots (mem_walkAll_of_mem he)).mp he] at hroot
    cases hroot

/-- How the merge of a tree into another ends. -/
theorem absorbTree_outcome {t s : Definitions} (ht : Indexed t) (hs : Indexed s) :
    Outcome t [] s.roots (absorbTree s t) :=
  absorbAll_outcome ht s.roots (.refl t) (hs.fits t)

theorem merge_ok {t s r : Definitions} (ht : Indexed t) (hs : Indexed s)
    (h : merge t s = .ok r) :
    (∀ e ∈ sharedAll t s.roots, t.Agrees e) ∧ Adopts t (missingAll t s.roots) r := by
  have ho := absorbTree_outcome ht hs
  unfold merge at h
  cases hr : absorbTree s t with
  | error cause r' =>
    rw [hr] at h
    cases h
  | ok u r' =>
    rw [hr] at h ho
    obtain rfl := Except.ok.inj h
    obtain ⟨agree, adopts⟩ := ho
    exact ⟨agree, by simpa using adopts⟩

theorem merge_error {t s : Definitions} (ht : Indexed t) (hs : Indexed s) {cause : MergeError}
    (h : merge t s = .error cause) :
    ∃ before e after x, sharedAll t s.roots = before ++ e :: after ∧ (∀ b ∈ before, t.Agrees b) ∧
      t.get? e.key = some x ∧ x.value ≠ e.value ∧ cause = conflict e.key x.value e.value := by
  have ho := absorbTree_outcome ht hs
  unfold merge at h
  cases hr : absorbTree s t with
  | ok u r' =>
    rw [hr] at h
    cases h
  | error cause' r' =>
    rw [hr] at h ho
    obtain rfl := Except.error.inj h
    cases ho with
    | refused first agree there differ part adopts =>
      exact ⟨_, _, _, _, first, agree, there, differ, rfl⟩

end Definitions

end RouterConfig
