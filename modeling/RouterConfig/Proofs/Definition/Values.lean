/-
RouterConfig.Proofs.Definition.Values — a tree as the values of its keys,
and when a value can be set.

A path is clear when nothing above it holds a value. To a clear path that
is free a value can be set under either policy (`setValue_free`), and to
one that need not be free the definitions can be made (`ensure_clear`).
Both change the values of no other keys than those on the way, which have
none before and the empty one afterwards.
-/
import RouterConfig.Proofs.Definition.Frame

namespace RouterConfig

namespace Definitions

/-! ## 1. Values of keys -/

/-- The value under a key, empty where a definition has none. -/
def value? (t : Definitions) (k : String) : Option Value := (t.get? k).map (·.value)

variable {t t' : Definitions} {path done : ConfigPath} {step : Step} {loc : Location}

theorem value?_eq_some {k : String} {w : Value} :
    t.value? k = some w ↔ ∃ l f, t.index.get? k = some l ∧ t.face? l = some f ∧ f.value = w := by
  constructor
  · intro h
    obtain ⟨d, hd, rfl⟩ := Option.map_eq_some_iff.mp h
    obtain ⟨l, hl, hat⟩ := Option.bind_eq_some_iff.mp hd
    exact ⟨l, d.bare, hl, face?_of_at? hat, rfl⟩
  · rintro ⟨l, f, hl, hf, rfl⟩
    obtain ⟨d, hd, rfl⟩ := face?_eq_some.mp hf
    simp [value?, get?, hl, hd]

theorem value?_eq_none (h : Indexed t) {k : String} :
    t.value? k = none ↔ t.index.get? k = none := by
  rw [value?, Option.map_eq_none_iff, h.get?_eq_none]

/-- A new definition has the empty value, and the others keep theirs. -/
theorem value?_grow (h : Indexed t) {siblings : List Definition}
    (room : Definition.below? t.roots loc = some siblings) {k : String} {w : Value}
    (hw : (t.grow done step loc siblings.length).value? k = some w) :
    t.value? k = some w ∨ w = .empty ∧ k = (done.snoc step).key := by
  obtain ⟨l, f, hl, hf, rfl⟩ := value?_eq_some.mp hw
  rw [index_grow] at hl
  rw [face?_grow room] at hf
  split at hl
  case isTrue hk =>
    obtain rfl := Option.some.inj hl
    rw [if_pos rfl] at hf
    obtain rfl := Option.some.inj hf
    exact .inr ⟨rfl, hk.symm⟩
  case isFalse hk =>
    have hne : l ≠ loc ++ [siblings.length] := by
      rintro rfl
      obtain ⟨g, hg, -⟩ := h.index_iff.mp hl
      rw [face?_eq_none_of_room room []] at hg
      cases hg
    rw [if_neg hne] at hf
    exact .inl (value?_eq_some.mpr ⟨l, f, hl, hf, rfl⟩)

/-- Setting the value of one key leaves the values of the others. -/
theorem value?_relabel (h : Indexed t) {key : String} (hkey : t.index.get? key = some loc)
    {v w : Value} {k : String}
    (hw : (t.relabel loc fun d => { d with value := v }).value? k = some w) :
    k = key ∧ w = v ∨ k ≠ key ∧ t.value? k = some w := by
  obtain ⟨l, f, hl, hf, rfl⟩ := value?_eq_some.mp hw
  rw [index_relabel] at hl
  rw [face?_relabel (by intro d; rfl)] at hf
  by_cases hk : k = key
  · subst hk
    obtain rfl : l = loc := Option.some.inj (hl.symm.trans hkey)
    rw [if_pos rfl] at hf
    obtain ⟨d, -, rfl⟩ := Option.map_eq_some_iff.mp hf
    exact .inl ⟨rfl, rfl⟩
  · have hne : l ≠ loc := by
      rintro rfl
      obtain ⟨f, hf, rfl⟩ := h.index_iff.mp hl
      obtain ⟨g, hg, rfl⟩ := h.index_iff.mp hkey
      obtain rfl : f = g := Option.some.inj (hf.symm.trans hg)
      exact hk rfl
    rw [if_neg hne] at hf
    exact .inr ⟨hk, value?_eq_some.mpr ⟨l, f, hl, hf, rfl⟩⟩

/-! ## 2. Clear paths -/

/-- Nothing above the path holds a value. -/
def Clear (t : Definitions) (path : ConfigPath) : Prop :=
  ∀ p : ConfigPath, p.isRoot = false → p.steps <+: path.steps → p ≠ path →
    ∀ w, t.value? p.key = some w → w = .empty

/-- Keys on the way to the path may have come into the tree, with the empty value. -/
def Leading (path : ConfigPath) (t t' : Definitions) : Prop :=
  ∀ k w, t'.value? k = some w → t.value? k = some w ∨ w = .empty ∧ KeyWithin k path.key

theorem Leading.trans {u : Definitions} (h : Leading path t u) (h' : Leading path u t') :
    Leading path t t' := by
  intro k w hw
  rcases h' k w hw with hu | hway
  · exact h k w hu
  · exact .inr hway

theorem Clear.leading (h : t.Clear path) (hlead : Leading path t t') : t'.Clear path := by
  intro p hp hprefix hne w hw
  rcases hlead p.key w hw with ht | ⟨hempty, -⟩
  · exact h p hp hprefix hne w ht
  · exact hempty

/-- What has the empty value may have something below it. -/
theorem open_of_value? (hvalue : ∀ w, t.value? (done.snoc step).key = some w → w = .empty)
    (hk : t.index.get? (done.snoc step).key = some loc) : t.Open loc := by
  intro f hf
  exact hvalue f.value (value?_eq_some.mpr ⟨loc, f, hk, hf, rfl⟩)

theorem ensureBelow_clear (steps : List Step) (h : Indexed t) (hs : t.Stands done loc)
    (hopen : steps ≠ [] → t.Open loc) (hpath : done.steps ++ steps = path.steps)
    (hclear : t.Clear path) :
    ∃ l t', ensureBelow done loc steps t = .ok l t' ∧ Leading path t t' := by
  induction steps generalizing done loc t with
  | nil => exact ⟨loc, t, rfl, fun k w hw => .inl hw⟩
  | cons step rest ih =>
    have hsnoc : (done.snoc step).steps ++ rest = path.steps := by simpa using hpath
    have honWay : (done.snoc step).steps <+: path.steps := ⟨rest, hsnoc⟩
    have hvalue : rest ≠ [] → ∀ w, t.value? (done.snoc step).key = some w → w = .empty := by
      intro hrest
      refine hclear _ (ConfigPath.isRoot_snoc done step) honWay ?_
      rintro rfl
      exact hrest (by simpa using hsnoc)
    cases hk : t.index.get? (done.snoc step).key with
    | some found =>
      have hopen' : rest ≠ [] → t.Open found := fun hrest => open_of_value? (hvalue hrest) hk
      have hleaf : (!rest.isEmpty && (t.at? found).any (·.isLeaf)) = false := by
        cases hrest : rest.isEmpty with
        | true => rfl
        | false => exact not_isLeaf_of_open (hopen' (by simpa using hrest))
      rw [ensureBelow_found hk hleaf]
      exact ih h (stands_snoc hk) hopen' hsnoc hclear
    | none =>
      obtain ⟨siblings, room⟩ := hs.room h
      have hgrow : Change (· = path) t (t.grow done step loc siblings.length) :=
        .grow rfl honWay hs room (hopen (by simp)) hk
      have hlead : Leading path t (t.grow done step loc siblings.length) := by
        intro k w hw
        rcases value?_grow h room hw with ht | ⟨hempty, rfl⟩
        · exact .inl ht
        · exact .inr ⟨hempty,
            ConfigPath.keyWithin_of_prefix (ConfigPath.isRoot_snoc done step) honWay⟩
      obtain ⟨l, t', hrun, hlead'⟩ := ih (h.change hgrow) (stands_grow _)
        (fun _ => open_grow room) hsnoc (hclear.leading hlead)
      rw [ensureBelow_missing hk room]
      exact ⟨l, t', hrun, hlead.trans hlead'⟩

/-- The definitions on a clear path can be made. -/
theorem ensure_clear (h : Indexed t) (hroot : path.isRoot = false) (hclear : t.Clear path) :
    ∃ l t', ensure path t = .ok l t' ∧ t'.index.get? path.key = some l ∧ Indexed t' ∧
      Leading path t t' := by
  have hopen : path.steps ≠ [] → t.Open [] := by
    intro _ f hf
    cases hf
  obtain ⟨l, t', hrun, hlead⟩ :=
    ensureBelow_clear path.steps h (stands_nil t rfl : t.Stands .root []) hopen rfl hclear
  have hensure : ensure path t = .ok l t' := by
    rw [ensure, if_neg (by simp [hroot])]
    exact hrun
  have hindexed := h.changes ((keeps_ensure path).changes h hensure)
  exact ⟨l, t', hensure, ((ensure_changes path h).2 l t' hensure).2.index hroot, hindexed, hlead⟩

/-- To a clear path that is free a value can be set, whatever the policy. -/
theorem setValue_free (h : Indexed t) (hroot : path.isRoot = false) (hclear : t.Clear path)
    (hfree : t.value? path.key = none) (v : Value) :
    ∃ t', setValue path v t = .ok () t' ∧ Indexed t' ∧ ∀ k w, t'.value? k = some w →
      k = path.key ∧ w = v ∨
        k ≠ path.key ∧ (t.value? k = some w ∨ w = .empty ∧ KeyWithin k path.key) := by
  have hget : t.get? path.key = none := Option.map_eq_none_iff.mp hfree
  have hcheck : checkVacant path t = .ok () t := by
    rw [checkVacant_apply, hget]
  obtain ⟨l, u, hensure, hstands, hu, hlead⟩ := ensure_clear h hroot hclear
  have hset : setValue path v t = .ok () (u.relabel l fun d => { d with value := v }) := by
    rw [setValue, bind_of_ok hcheck, bind_of_ok hensure, update_apply]
  refine ⟨_, hset, h.changes ((keeps_setValue path v).changes h hset), ?_⟩
  intro k w hw
  rcases value?_relabel hu hstands hw with hself | ⟨hne, hother⟩
  · exact .inl hself
  · exact .inr ⟨hne, hlead k w hother⟩

end Definitions

end RouterConfig
