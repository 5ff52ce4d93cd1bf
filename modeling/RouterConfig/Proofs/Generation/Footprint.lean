/-
RouterConfig.Proofs.Generation.Footprint — steps of a run that put their
values at spots of their own.

`Filled` says of a tree that its values are at proper spots, all of them
in a given set. A step `Sets` spots when it succeeds on each tree that is
filled apart from them, and fills them. Steps of this kind one after the
other are of this kind when no spot belongs to two (`Sets.bind`,
`Sets.forEach`). The default action of a rule set is no one's own: it may
be put again, and is always the same.
-/
import Mathlib.Data.Set.Lattice
import Mathlib.Order.CompletePartialOrder
import RouterConfig.Proofs.Definition.Values
import RouterConfig.Proofs.Generation.Spots
import RouterConfig.Proofs.Generation.Runs

namespace RouterConfig

/-! ## 1. The texts of a path -/

namespace ConfigPath

@[simp] theorem literal_words (path : ConfigPath) (names : List String) :
    (path.words names).literal = path.literal ++ names := by
  rw [words, literal_append, List.map_map]
  congr 1
  exact List.map_id names

theorem isRoot_of_literal {path : ConfigPath} {l : List String} (h : path.literal = l)
    (hne : l ≠ []) : path.isRoot = false := by
  rw [isRoot, List.isEmpty_eq_false_iff]
  intro hnil
  rw [literal, hnil] at h
  exact hne h.symm

end ConfigPath

namespace Generation

open Definitions

/-! ## 2. Filled trees -/

/-- The rule set whose default action stands below a stem. -/
def Stem.shared? : Stem → Option String
  | .ruleSet name => some name
  | _ => none

/-- The value may be at the spot: the default action of a rule set, or any value at a spot of the
set. -/
def Admits (actions : String → String) (spots : Set Spot) (s : Spot) (w : Value) : Prop :=
  match s.stem.shared? with
  | some name => w = .single (actions name)
  | none => s ∈ spots

/-- All values in the tree are at proper spots that admit them. What has no value leads to a proper
spot. -/
structure Filled (actions : String → String) (spots : Set Spot) (t : Definitions) : Prop where
  indexed : Indexed t
  value : ∀ k w, t.value? k = some w →
    (∃ s : Spot, s.Proper ∧ k = s.key ∧ Admits actions spots s w) ∨
      w = .empty ∧ ∃ s : Spot, s.Proper ∧ KeyWithin k s.key ∧ k ≠ s.key

variable {actions : String → String} {spots more : Set Spot} {s : Spot} {path : ConfigPath}
  {t : Definitions}

theorem Admits.mono (hsub : spots ⊆ more) {w : Value} (h : Admits actions spots s w) :
    Admits actions more s w := by
  cases hshared : s.stem.shared? with
  | some name =>
    simp only [Admits, hshared] at h ⊢
    exact h
  | none =>
    simp only [Admits, hshared] at h ⊢
    exact hsub h

namespace Filled

theorem new (schema : SchemaNode) (policy : DuplicatePolicy) :
    Filled actions spots (.new schema policy) where
  indexed := indexed_new schema policy
  value k w hw := by
    have hnone : (Definitions.new schema policy).value? k = none :=
      (value?_eq_none (indexed_new schema policy)).mpr rfl
    rw [hnone] at hw
    cases hw

theorem mono (h : Filled actions spots t) (hsub : spots ⊆ more) : Filled actions more t where
  indexed := h.indexed
  value k w hw := (h.value k w hw).imp_left
    fun ⟨s, hs, hk, hadmits⟩ => ⟨s, hs, hk, hadmits.mono hsub⟩

/-- What is found under the key of a proper spot is a value that the spot admits. -/
theorem admits (h : Filled actions spots t) (hs : s.Proper) {w : Value}
    (hw : t.value? s.key = some w) : Admits actions spots s w := by
  rcases h.value s.key w hw with ⟨s', hs', hk, hadmits⟩ | ⟨-, s', hs', hwithin, hne⟩
  · obtain rfl := Spot.eq_of_keyWithin hs hs' (hk ▸ .refl _)
    exact hadmits
  · obtain rfl := Spot.eq_of_keyWithin hs hs' hwithin
    exact absurd rfl hne

/-- Nothing above a proper spot holds a value. -/
theorem clear (h : Filled actions spots t) (hs : s.Proper) (hpath : KeyWithin path.key s.key) :
    t.Clear path := by
  intro p hroot hstarts hne w hw
  have hwithin := ConfigPath.keyWithin_of_prefix hroot hstarts
  rcases h.value p.key w hw with ⟨s', hs', hk, -⟩ | ⟨hempty, -⟩
  · -- only the spot itself has a value there, and its key is longer
    obtain rfl := Spot.eq_of_keyWithin hs' hs (hk ▸ hwithin.trans hpath)
    have hkey : p.key = path.key := hwithin.antisymm (hk ▸ hpath)
    obtain ⟨rest, hrest⟩ := hstarts
    have hmore : rest ≠ [] := by
      rintro rfl
      rw [List.append_nil] at hrest
      cases p
      cases path
      exact hne (congrArg ConfigPath.mk hrest)
    have hlonger := ConfigPath.key_ne_of_prefix hroot hmore
    rw [hrest] at hlonger
    exact absurd hkey hlonger
  · exact hempty

/-- At a proper spot without a value one can be set that the spot admits. -/
theorem setValue (h : Filled actions spots t) (hs : s.Proper) (hroot : path.isRoot = false)
    (hkey : path.key = s.key) (hfree : t.value? s.key = none) (hsub : spots ⊆ more) {v : Value}
    (hadmits : Admits actions more s v) :
    ∃ t', setValue path v t = .ok () t' ∧ Filled actions more t' := by
  obtain ⟨t', hset, hindexed, hvalues⟩ := setValue_free h.indexed hroot
    (h.clear hs (hkey ▸ .refl _)) (hkey ▸ hfree) v
  refine ⟨t', hset, hindexed, ?_⟩
  intro k w hw
  rcases hvalues k w hw with ⟨hk, rfl⟩ | ⟨hk, hold | ⟨hempty, hway⟩⟩
  · exact .inl ⟨s, hs, hk.trans hkey, hadmits⟩
  · exact (h.mono hsub).value k w hold
  · exact .inr ⟨hempty, s, hs, hkey ▸ hway, hkey ▸ hk⟩

/-- The definitions above a proper spot can be made. -/
theorem ensure (h : Filled actions spots t) (hs : s.Proper) (hroot : path.isRoot = false)
    (hpath : KeyWithin path.key s.key) (hne : path.key ≠ s.key) :
    ∃ l t', ensure path t = .ok l t' ∧ Filled actions spots t' := by
  obtain ⟨l, t', hensure, -, hindexed, hlead⟩ := ensure_clear h.indexed hroot (h.clear hs hpath)
  refine ⟨l, t', hensure, hindexed, ?_⟩
  intro k w hw
  rcases hlead k w hw with hold | ⟨hempty, hway⟩
  · exact h.value k w hold
  · refine .inr ⟨hempty, s, hs, hway.trans hpath, ?_⟩
    rintro rfl
    exact hne (hpath.antisymm hway)

end Filled

/-! ## 3. Steps that set spots of their own -/

/-- On each tree that is filled apart from the spots the step succeeds, and it fills no others. The
sequences of numbers are as before. -/
def Sets (actions : String → String) (own : Set Spot) (x : Run α) : Prop :=
  ∀ spots g, Filled actions spots g.tree → Disjoint own spots →
    ∃ a g', x g = .ok a g' ∧ Filled actions (spots ∪ own) g'.tree ∧ g'.counters = g.counters

namespace Sets

variable {own own' : Set Spot}

theorem mono {x : Run α} (hx : Sets actions own x) (hsub : own ⊆ own') : Sets actions own' x := by
  intro spots g hg hdisjoint
  obtain ⟨a, g', hrun, hg', hcounters⟩ := hx spots g hg (hdisjoint.mono_left hsub)
  exact ⟨a, g', hrun, hg'.mono (Set.union_subset_union_right spots hsub), hcounters⟩

theorem pure (a : α) : Sets actions own (Pure.pure a : Run α) := by
  intro spots g hg _
  exact ⟨a, g, rfl, hg.mono Set.subset_union_left, rfl⟩

/-- Two steps fill the spots of both. -/
theorem bind {x : Run α} {f : α → Run β} (hx : Sets actions own x)
    (hf : ∀ a, Sets actions own' (f a)) (happart : Disjoint own own') :
    Sets actions (own ∪ own') (x >>= f) := by
  intro spots g hg hdisjoint
  obtain ⟨hown, hown'⟩ := Set.disjoint_union_left.mp hdisjoint
  obtain ⟨a, u, hxu, hu, hcounters⟩ := hx spots g hg hown
  have hrest : Disjoint own' (spots ∪ own) := Set.disjoint_union_right.mpr ⟨hown', happart.symm⟩
  obtain ⟨b, g', hfu, hg', hcounters'⟩ := hf a (spots ∪ own) u hu hrest
  refine ⟨b, g', (bind_of_ok hxu).trans hfu, ?_, hcounters'.trans hcounters⟩
  rwa [← Set.union_assoc]

theorem discard {x : Run α} (hx : Sets actions own x) : Sets actions own (discard x) := by
  have hnothing : Sets actions ∅ (Pure.pure () : Run Unit) := pure ()
  have := hx.bind (fun _ => hnothing) (Set.disjoint_empty own)
  rwa [Set.union_empty] at this

theorem forEach {items : List α} {step : α → Run Unit} {own : α → Set Spot}
    (hstep : ∀ item ∈ items, Sets actions (own item) (step item))
    (happart : items.Pairwise fun a b => Disjoint (own a) (own b)) :
    Sets actions {s | ∃ item ∈ items, s ∈ own item} (forEach items step) := by
  induction items with
  | nil => exact pure ()
  | cons item rest ih =>
    obtain ⟨hfirst, hrest⟩ := List.pairwise_cons.mp happart
    have hothers := ih (fun other hother => hstep other (List.mem_cons_of_mem _ hother)) hrest
    refine ((hstep item List.mem_cons_self).bind (fun _ => hothers) ?_).mono ?_
    · rw [Set.disjoint_left]
      rintro s hs ⟨other, hother, hs'⟩
      exact Set.disjoint_left.mp (hfirst other hother) hs hs'
    · rintro s (hs | ⟨other, hother, hs⟩)
      · exact ⟨item, List.mem_cons_self, hs⟩
      · exact ⟨other, List.mem_cons_of_mem _ hother, hs⟩

/-- A template without entries puts nothing. -/
theorem putTemplate_empty (path : ConfigPath) : Sets actions own (putTemplate path ∅) :=
  pure ()

end Sets

/-! ## 4. Steps that set values below one stem -/

/-- The spots with some words below a stem. -/
def Stem.at (stem : Stem) (words : List (List String)) : Set Spot :=
  {s | s.stem = stem ∧ s.words ∈ words}

/-- The step sets values below the stem, at no other than these words. -/
def Fills (actions : String → String) (stem : Stem) (words : List (List String)) (x : Run α) :
    Prop := Sets actions (stem.at words) x

theorem Spot.Proper.append_ne_nil {s : Spot} (hs : s.Proper) : s.stem.literal ++ s.words ≠ [] :=
  List.append_ne_nil_of_right_ne_nil _ (Stem.plain_of_mem_leaves hs.mem_leaves).1

namespace Fills

variable {stem : Stem} {pieces : List String} {words words' : List (List String)}
  {w : List String} {path : ConfigPath}

theorem pure (a : α) : Fills actions stem words (Pure.pure a : Run α) := Sets.pure a

theorem bind {x : Run α} {f : α → Run β} (hx : Fills actions stem words x)
    (hf : ∀ a, Fills actions stem words' (f a)) (happart : ∀ w ∈ words, w ∉ words') :
    Fills actions stem (words ++ words') (x >>= f) := by
  refine (Sets.bind hx hf ?_).mono ?_
  · rw [Set.disjoint_left]
    rintro s ⟨-, hs⟩ ⟨-, hs'⟩
    exact happart _ hs hs'
  · rintro s (⟨rfl, hs⟩ | ⟨rfl, hs⟩)
    · exact ⟨rfl, List.mem_append_left _ hs⟩
    · exact ⟨rfl, List.mem_append_right _ hs⟩

theorem setValue (hpieces : stem.Pieces pieces) (howned : stem.shared? = none)
    (hw : w ∈ stem.leaves) (hpath : path.literal = stem.literal ++ w) (v : Value) :
    Fills actions stem [w] (edit (Definitions.setValue path v)) := by
  have hs : (Spot.mk stem w).Proper := hpieces.proper hw
  have hmem : Spot.mk stem w ∈ stem.at [w] := ⟨rfl, List.mem_singleton_self w⟩
  intro spots g hg hdisjoint
  have hfree : g.tree.value? (Spot.mk stem w).key = none := by
    cases hvalue : g.tree.value? (Spot.mk stem w).key with
    | none => rfl
    | some old =>
      have hadmits := hg.admits hs hvalue
      simp only [Admits, howned] at hadmits
      exact absurd hadmits (Set.disjoint_left.mp hdisjoint hmem)
  have hadmits : Admits actions (spots ∪ stem.at [w]) ⟨stem, w⟩ v := by
    simp only [Admits, howned]
    exact .inr hmem
  obtain ⟨t', hset, ht'⟩ := hg.setValue hs (ConfigPath.isRoot_of_literal hpath hs.append_ne_nil)
    (congrArg (Text.join "/") hpath) hfree Set.subset_union_left hadmits
  refine ⟨(), { g with tree := t' }, ?_, ht', rfl⟩
  simp only [edit, hset]

section

variable (hpieces : stem.Pieces pieces) (howned : stem.shared? = none) (hw : w ∈ stem.leaves)
  (hpath : path.literal = stem.literal ++ w)
include hpieces howned hw hpath

theorem put (text : String) : Fills actions stem [w] (put path text) :=
  setValue hpieces howned hw hpath _

theorem putAll (texts : List String) : Fills actions stem [w] (putAll path texts) :=
  setValue hpieces howned hw hpath _

theorem putIfSome (text : Option String) : Fills actions stem [w] (putIfSome path text) := by
  cases text with
  | none => exact pure ()
  | some text => exact put hpieces howned hw hpath text

theorem putAny (texts : List String) : Fills actions stem [w] (putAny path texts) := by
  unfold Generation.putAny
  split
  · exact pure ()
  · exact putAll hpieces howned hw hpath texts

end

/-- The definitions at a stem can be made. -/
theorem ensure (hpieces : stem.Pieces pieces) (hw : w ∈ stem.leaves)
    (hpath : path.literal = stem.literal) :
    Fills actions stem [] (discard (edit (Definitions.ensure path))) := by
  have hs : (Spot.mk stem w).Proper := hpieces.proper hw
  have hroot : path.isRoot = false := ConfigPath.isRoot_of_literal hpath stem.literal_ne_nil
  have hlong : (path.words w).key = (Spot.mk stem w).key := by
    rw [ConfigPath.key, ConfigPath.literal_words, hpath]
    rfl
  have hwithin : KeyWithin path.key (Spot.mk stem w).key :=
    hlong ▸ ConfigPath.keyWithin_of_prefix hroot (below_words path w)
  have hne : path.key ≠ (Spot.mk stem w).key := by
    have hw : w ≠ [] := (Stem.plain_of_mem_leaves hs.mem_leaves).1
    exact hlong ▸ ConfigPath.key_ne_of_prefix hroot (by simpa using hw)
  refine Sets.discard ?_
  intro spots g hg _
  obtain ⟨l, t', hensure, ht'⟩ := hg.ensure hs hroot hwithin hne
  refine ⟨l, { g with tree := t' }, ?_, ht'.mono Set.subset_union_left, rfl⟩
  simp only [edit, hensure]

end Fills

/-- What sets values below a stem at some words sets them below the stem. -/
theorem Fills.below {stem : Stem} {words : List (List String)} {x : Run α}
    (hx : Fills actions stem words x) : Sets actions {s | s.stem = stem} x :=
  hx.mono fun _ hs => hs.1

theorem putShared_apply (path : ConfigPath) (text : String) (g : Generation) :
    putShared path text g = (if g.tree.value? path.key = some (.single text)
      then Pure.pure () else put path text : Run Unit) g := rfl

/-- The default action of a rule set may be put again. -/
theorem Sets.putShared {name : String} (hname : Plain name)
    (hpath : path.literal = (Stem.ruleSet name).literal ++ ["default-action"]) :
    Sets actions ∅ (putShared path (actions name)) := by
  have hs : (Spot.mk (.ruleSet name) ["default-action"]).Proper :=
    (Stem.Pieces.ruleSet hname).proper (List.mem_singleton_self _)
  have hkey : path.key = (Spot.mk (.ruleSet name) ["default-action"]).key :=
    congrArg (Text.join "/") hpath
  have hroot : path.isRoot = false := ConfigPath.isRoot_of_literal hpath (by simp)
  intro spots g hg _
  cases hvalue : g.tree.value? path.key with
  | some old =>
    obtain rfl : old = .single (actions name) := hg.admits hs (hkey ▸ hvalue)
    refine ⟨(), g, ?_, hg.mono Set.subset_union_left, rfl⟩
    rw [putShared_apply, if_pos hvalue]
    rfl
  | none =>
    obtain ⟨t', hset, ht'⟩ := hg.setValue (v := .single (actions name)) hs hroot hkey
      (hkey ▸ hvalue) (Set.subset_union_left (t := ∅)) rfl
    refine ⟨(), { g with tree := t' }, ?_, ht', rfl⟩
    rw [putShared_apply, hvalue, if_neg (by simp)]
    simp only [put, edit, insertValue, hset]

end Generation

end RouterConfig
