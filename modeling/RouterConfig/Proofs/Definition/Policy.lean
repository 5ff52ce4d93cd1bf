/-
RouterConfig.Proofs.Definition.Policy — what the policy for a second value
decides, and what it does not.

An edit under another policy makes the same tree and stops with the same
error, unless it is to set a value where there is one: only there is the
policy asked (`setValue_vacant`, `setValue_reject`).
-/
import RouterConfig.Proofs.Definition.Frame

namespace RouterConfig

/-- The same outcome with another state. -/
def mapState (f : σ → τ) : EStateM.Result ε σ α → EStateM.Result ε τ α
  | .ok a s => .ok a (f s)
  | .error cause s => .error cause (f s)

/-- What two runs do alike from related states, they do alike one after the other. -/
theorem bind_mapState {ε σ α β : Type} {x : EStateM ε σ α} {k : α → EStateM ε σ β} {f : σ → σ}
    {s : σ} (hx : x (f s) = mapState f (x s))
    (hk : ∀ a s', x s = .ok a s' → k a (f s') = mapState f (k a s')) :
    (x >>= k) (f s) = mapState f ((x >>= k) s) := by
  cases h : x s with
  | ok a s' =>
    rw [h] at hx
    rw [bind_of_ok hx, bind_of_ok h, hk a s' h]
  | error cause s' =>
    rw [h] at hx
    rw [bind_of_error hx, bind_of_error h]
    rfl

namespace Definitions

/-- The tree under another policy. -/
def under (policy : DuplicatePolicy) (t : Definitions) : Definitions := { t with policy }

variable {t t' : Definitions} {policy : DuplicatePolicy}

@[simp] theorem get?_under (k : String) : (t.under policy).get? k = t.get? k := rfl

@[simp] theorem under_under (other : DuplicatePolicy) :
    (t.under policy).under other = t.under other := rfl

theorem under_self (h : t.policy = policy) : t.under policy = t := by
  subst h
  rfl

/-- The policy of a tree stays. -/
theorem Changes.policy_eq {P : ConfigPath → Prop} (hc : Changes P t t') :
    t'.policy = t.policy := by
  induction hc with
  | refl => rfl
  | tail _ hstep ih =>
    rw [← ih]
    cases hstep <;> rfl

/-! ## 1. Finding and making definitions -/

theorem ensureBelow_cons (done : ConfigPath) (loc : Location) (step : Step) (rest : List Step)
    (t : Definitions) :
    ensureBelow done loc (step :: rest) t = match t.index.get? (done.snoc step).key with
      | some found =>
        if !rest.isEmpty && (t.at? found).any (·.isLeaf) then
          .error (.notContainer (done.snoc step).key) t
        else ensureBelow (done.snoc step) found rest t
      | none =>
        match Definition.below? t.roots loc with
        | none => .error (.parentNotFound done.key) t
        | some siblings =>
          ensureBelow (done.snoc step) (loc ++ [siblings.length]) rest
            (t.grow done step loc siblings.length) := by
  cases hk : t.index.get? (done.snoc step).key with
  | some found =>
    cases hleaf : !rest.isEmpty && (t.at? found).any (·.isLeaf) with
    | true => simp only [ensureBelow_leaf hk hleaf, hleaf, if_true]
    | false => simp only [ensureBelow_found hk hleaf, hleaf, Bool.false_eq_true, if_false]
  | none =>
    cases room : Definition.below? t.roots loc with
    | some siblings => exact ensureBelow_missing hk room
    | none =>
      rw [ConfigPath.snoc] at hk
      simp only [ensureBelow, get_bind, hk]
      rw [bind_of_error (place_of_none room)]

theorem ensureBelow_under (steps : List Step) (done : ConfigPath) (loc : Location)
    (t : Definitions) : ensureBelow done loc steps (t.under policy) =
      mapState (under policy) (ensureBelow done loc steps t) := by
  induction steps generalizing done loc t with
  | nil => rfl
  | cons step rest ih =>
    have hindex : (t.under policy).index = t.index := rfl
    have hroots : (t.under policy).roots = t.roots := rfl
    have hat : ∀ l, (t.under policy).at? l = t.at? l := fun _ => rfl
    have hgrow : ∀ i, (t.under policy).grow done step loc i =
        (t.grow done step loc i).under policy := fun _ => rfl
    rw [ensureBelow_cons, ensureBelow_cons, hindex]
    cases t.index.get? (done.snoc step).key with
    | some found =>
      simp only [hat]
      split
      · rfl
      · exact ih _ _ _
    | none =>
      rw [hroots]
      cases Definition.below? t.roots loc with
      | none => rfl
      | some siblings =>
        simp only [hgrow]
        exact ih _ _ _

/-- Finding or making a definition does not ask the policy. -/
theorem ensure_under (path : ConfigPath) (t : Definitions) :
    ensure path (t.under policy) = mapState (under policy) (ensure path t) := by
  unfold ensure
  split
  · rfl
  · exact ensureBelow_under path.steps .root [] t

theorem ensureBelow_ne_duplicatePath (steps : List Step) (done : ConfigPath) (loc : Location)
    (t t' : Definitions) (k : String) :
    ensureBelow done loc steps t ≠ .error (.duplicatePath k) t' := by
  induction steps generalizing done loc t with
  | nil => exact fun h => by cases h
  | cons step rest ih =>
    rw [ensureBelow_cons]
    split
    · split
      · exact fun h => by cases h
      · exact ih _ _ _
    · split
      · exact fun h => by cases h
      · exact ih _ _ _

theorem ensure_ne_duplicatePath (path : ConfigPath) (t t' : Definitions) (k : String) :
    ensure path t ≠ .error (.duplicatePath k) t' := by
  unfold ensure
  split
  · exact fun h => by cases h
  · exact ensureBelow_ne_duplicatePath _ _ _ _ _ _

/-! ## 2. Setting a value -/

/-- Whether a value set at a path would be a second one. -/
def holdsValue (t : Definitions) (path : ConfigPath) : Bool :=
  (t.get? path.key).any (·.isLeaf)

theorem checkVacant_under {path : ConfigPath} (h : t.holdsValue path = false) :
    checkVacant path (t.under policy) = mapState (under policy) (checkVacant path t) := by
  rw [checkVacant_apply, checkVacant_apply, get?_under]
  unfold holdsValue at h
  cases hget : t.get? path.key with
  | none => rfl
  | some d =>
    have hleaf : d.isLeaf = false := by simpa [hget] using h
    simp only [hleaf, Bool.false_and, Bool.false_eq_true, if_false]
    split <;> rfl

/-- Where there is no value, the policy is not asked. -/
theorem setValue_vacant {path : ConfigPath} (h : t.holdsValue path = false) (value : Value) :
    setValue path value (t.under policy) = mapState (under policy) (setValue path value t) := by
  refine bind_mapState (checkVacant_under h) ?_
  intro _ u _
  refine bind_mapState (ensure_under path u) ?_
  intro loc v _
  rfl

/-- Where there is one, the strict policy refuses another. -/
theorem setValue_reject (ht : Indexed t) {path : ConfigPath} (h : t.holdsValue path = true)
    (value : Value) : setValue path value (t.under .reject) =
      .error (.duplicatePath path.key) (t.under .reject) := by
  obtain ⟨d, hget, hleaf⟩ : ∃ d, t.get? path.key = some d ∧ d.isLeaf = true := by
    simpa [holdsValue, Option.any_eq_true] using h
  have hchildren : d.children = [] := by
    refine List.eq_nil_iff_forall_not_mem.mpr ?_
    intro c hc
    have hwalk : d ∈ t.walk := ht.mem_walk.mpr (by rwa [ht.key_of_get? hget])
    have hempty := (ht.child_of_mem hwalk hc).2.2
    simp [Definition.isLeaf, Value.isEmpty, hempty] at hleaf
  have hcheck : checkVacant path (t.under .reject) =
      .error (.duplicatePath path.key) (t.under .reject) := by
    rw [checkVacant_apply, get?_under, hget]
    simp [hchildren, hleaf, under]
  exact bind_of_error hcheck

theorem setValue_ne_duplicatePath (ht : t.policy = .warn) (path : ConfigPath) (value : Value)
    (t' : Definitions) (k : String) :
    setValue path value t ≠ .error (.duplicatePath k) t' := by
  intro h
  rcases bind_eq_error.mp h with hcheck | ⟨_, u, _, hrest⟩
  · rw [checkVacant_apply, ht] at hcheck
    split at hcheck
    · cases hcheck
    · split at hcheck
      · cases hcheck
      · simp at hcheck
  · rcases bind_eq_error.mp hrest with hensure | ⟨loc, v, _, hupdate⟩
    · exact ensure_ne_duplicatePath path u t' k hensure
    · rw [update_apply] at hupdate
      cases hupdate

end Definitions

end RouterConfig
