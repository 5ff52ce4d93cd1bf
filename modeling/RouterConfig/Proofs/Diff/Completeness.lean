/-
RouterConfig.Proofs.Diff.Completeness — a comparison of two trees misses
nothing and repeats nothing.

`diff_complete`: of two trees made by calls, `DiffSpec` holds.

* The comparison is empty exactly when the trees have the same keys, with
  definitions that match (`Alike`).
* A branch that one tree lacks is one entry, at its top, and each key of it
  goes with exactly one such entry (`ReportsBranches`).
* A key of both is an entry exactly when its definitions differ, and is one
  in any case where keys without a difference are listed.

## How the proof goes

A key gives at most one entry, which is about it (`diffPath_cases`), so the
entries of a key can be told from the key alone (`filter_diff`). A key that
one tree lacks need not be an entry itself, for it may stand below one that
is. That one is found on the chain of the key, as the first definition the
other tree lacks (`Indexed.exists_branchTop`), and none further down begins
a branch (`Indexed.not_branchTop_below`). All is proved for the left side;
the right side is the left one of the trees exchanged (`diff_swap`).

## Side conditions

That a branch is one entry and not more asks for `Coherent`: otherwise a key
below the top of a branch may be one that the other tree has elsewhere. The
rest asks for nothing. `Matches` compares grammar nodes by what the
comparison looks at, which is not all that a node has.
-/
import RouterConfig.Diff.Definition
import RouterConfig.Proofs.Merge.Union

namespace RouterConfig

/-! ## 1. Keys of both trees -/

namespace Dictionary

variable {α : Type u}

theorem mem_keys_insert {d : Dictionary α} {key k : String} {v : α} :
    k ∈ (d.insert key v).keys ↔ key = k ∨ k ∈ d.keys := by
  rw [mem_keys, mem_keys, get?_insert]
  by_cases h : key = k <;> simp [h]

theorem mem_keys_ofList {entries : List (String × α)} {k : String} :
    k ∈ (ofList entries).keys ↔ k ∈ entries.map (·.1) := by
  have hfold : ∀ d : Dictionary α, k ∈ (entries.foldl (fun d e => d.insert e.1 e.2) d).keys ↔
      k ∈ d.keys ∨ k ∈ entries.map (·.1) := by
    induction entries with
    | nil => simp
    | cons e rest ih =>
      intro d
      rw [List.foldl_cons, ih, mem_keys_insert, List.map_cons, List.mem_cons]
      tauto
  rw [ofList, hfold]
  simp [keys, empty]

/-- Dictionaries with the same keys list them in the same way. -/
theorem keys_eq_of_mem_iff {d e : Dictionary α} (h : ∀ k, k ∈ d.keys ↔ k ∈ e.keys) :
    d.keys = e.keys := by
  have hsorted : ∀ d : Dictionary α, d.keys.Pairwise (· < ·) := fun d =>
    List.pairwise_map.mpr d.ascending
  exact List.Perm.eq_of_pairwise
    (fun _ _ _ _ hab hba => absurd (String.lt_trans hab hba) (String.lt_irrefl _))
    (hsorted d) (hsorted e)
    ((List.perm_ext_iff_of_nodup d.nodup_keys e.nodup_keys).mpr h)

end Dictionary

namespace Definitions

theorem mem_unionPaths {l r : Definitions} {k : String} :
    k ∈ unionPaths l r ↔ k ∈ l.paths ∨ k ∈ r.paths := by
  rw [unionPaths, Dictionary.mem_keys_ofList]
  simp

theorem unionPaths_comm (l r : Definitions) : unionPaths r l = unionPaths l r := by
  refine Dictionary.keys_eq_of_mem_iff fun k => ?_
  rw [← unionPaths, ← unionPaths, mem_unionPaths, mem_unionPaths, or_comm]

end Definitions

/-! ## 2. Matching definitions -/

/-- The grammar nodes agree in all that a comparison looks at. -/
structure SchemaNode.Matches (a b : SchemaNode) : Prop where
  name : a.name = b.name
  type : a.type = b.type
  isTag : a.isTag = b.isTag
  multi : a.multi = b.multi
  path : a.path = b.path

theorem SchemaNode.differences_eq_nil_iff {a b : SchemaNode} :
    a.differences b = [] ↔ a.Matches b := by
  simp only [differences, List.append_eq_nil_iff, Difference.ofField_eq_nil_iff]
  constructor
  · rintro ⟨⟨⟨⟨hname, htype⟩, htag⟩, hmulti⟩, hpath⟩
    exact ⟨hname, htype, htag, hmulti, hpath⟩
  · rintro ⟨hname, htype, htag, hmulti, hpath⟩
    exact ⟨⟨⟨⟨hname, htype⟩, htag⟩, hmulti⟩, hpath⟩

theorem SchemaNode.differences_swap (a b : SchemaNode) :
    b.differences a = (a.differences b).map Difference.swap := by
  simp only [differences, List.map_append, Difference.ofField_swap _ _ a.name,
    Difference.ofField_swap _ _ a.type, Difference.ofField_swap _ _ a.isTag,
    Difference.ofField_swap _ _ a.multi, Difference.ofField_swap _ _ a.path]

/-- A value is known by its two projections. -/
theorem Value.eq_iff {v w : Value} : v = w ↔ v.single? = w.single? ∧ v.multi? = w.multi? := by
  cases v <;> cases w <;> simp [single?, multi?]

namespace Definition

/-- The definitions agree in all that a comparison looks at. -/
structure Matches (x y : Definition) : Prop where
  name : x.name = y.name
  parent : x.parent.key = y.parent.key
  comment : x.comment = y.comment
  value : x.value = y.value
  /-- The grammar has neither of them, or has both with nodes that match. -/
  node : Option.Rel SchemaNode.Matches x.node y.node

theorem nodeDifferences_eq_nil_iff {a b : Option SchemaNode} :
    nodeDifferences a b = [] ↔ Option.Rel SchemaNode.Matches a b := by
  cases a <;> cases b <;> simp [nodeDifferences, SchemaNode.differences_eq_nil_iff]

theorem nodeDifferences_swap (a b : Option SchemaNode) :
    nodeDifferences b a = (nodeDifferences a b).map Difference.swap := by
  cases a with
  | none => cases b <;> rfl
  | some a =>
    cases b with
    | none => rfl
    | some b =>
      rw [nodeDifferences, nodeDifferences, SchemaNode.differences_swap, List.map_map,
        List.map_map]
      rfl

theorem differences_eq_nil_iff {x y : Definition} : x.differences y = [] ↔ x.Matches y := by
  simp only [differences, List.append_eq_nil_iff, Difference.ofField_eq_nil_iff,
    nodeDifferences_eq_nil_iff]
  constructor
  · rintro ⟨⟨⟨⟨⟨hname, hparent⟩, hcomment⟩, hsingle⟩, hmulti⟩, hnode⟩
    exact ⟨hname, hparent, hcomment, Value.eq_iff.mpr ⟨hsingle, hmulti⟩, hnode⟩
  · rintro ⟨hname, hparent, hcomment, hvalue, hnode⟩
    obtain ⟨hsingle, hmulti⟩ := Value.eq_iff.mp hvalue
    exact ⟨⟨⟨⟨⟨hname, hparent⟩, hcomment⟩, hsingle⟩, hmulti⟩, hnode⟩

theorem differences_swap (x y : Definition) :
    y.differences x = (x.differences y).map Difference.swap := by
  simp only [differences, List.map_append, Difference.ofField_swap _ _ x.name,
    Difference.ofField_swap _ _ x.parent.key, Difference.ofField_swap _ _ x.comment,
    Difference.ofField_swap _ _ x.value.single?, Difference.ofField_swap _ _ x.value.multi?,
    nodeDifferences_swap x.node]

end Definition

/-! ## 3. The entries of a key -/

/-- Of what several keys give, a filter that rejects all but one key leaves what that key gives. -/
theorem filter_flatMap_of_unique {κ α : Type} [DecidableEq κ] {ks : List κ} (hnodup : ks.Nodup)
    {f : κ → List α} {p : α → Bool} {k : κ}
    (hother : ∀ k' ∈ ks, k' ≠ k → (f k').filter p = []) :
    (ks.flatMap f).filter p = if k ∈ ks then (f k).filter p else [] := by
  induction ks with
  | nil => rfl
  | cons k' rest ih =>
    obtain ⟨hnew, hrest⟩ := List.nodup_cons.mp hnodup
    rw [List.flatMap_cons, List.filter_append,
      ih hrest fun k'' hk'' => hother k'' (List.mem_cons_of_mem _ hk'')]
    by_cases hk : k' = k
    · subst hk
      simp [hnew]
    · simp [hother k' List.mem_cons_self hk, Ne.symm hk]

/-- Nothing is left out of the comparison. -/
structure DiffOptions.Unlimited (options : DiffOptions) : Prop where
  depth : options.maxDepth < 0
  ignore : options.ignore = []

namespace DiffOptions

theorem compared_swap (options : DiffOptions) (path : String) (differences : List Difference) :
    options.compared path (differences.map Difference.swap) =
      (options.compared path differences).map DiffEntry.swap := by
  unfold compared
  cases differences with
  | nil => cases options.includeIdentical <;> rfl
  | cons d rest => rfl

theorem path_of_mem_compared {options : DiffOptions} {path : String} {differences : List Difference}
    {e : DiffEntry Difference} (h : e ∈ options.compared path differences) : e.path = path := by
  unfold compared at h
  repeat' split at h
  all_goals simp_all [DiffEntry.path]

/-- A negative depth is no limit. -/
theorem exceeds_of_neg {options : DiffOptions} (h : options.maxDepth < 0) (depth : Nat) :
    options.exceeds depth = false := by
  simp [exceeds, h]

theorem unlimited_whole (includeIdentical : Bool) :
    Unlimited { includeIdentical := includeIdentical } :=
  ⟨show (-1 : Int) < 0 by decide, rfl⟩

variable {options : DiffOptions} (whole : options.Unlimited)
include whole

theorem Unlimited.ignores_eq (path : String) : options.ignores path = false := by
  simp [ignores, whole.ignore]

theorem Unlimited.exceeds_eq (depth : Nat) : options.exceeds depth = false :=
  exceeds_of_neg whole.depth depth

end DiffOptions

namespace Definitions

open Definition

variable {options : DiffOptions} {l r : Definitions} {k : String}

/-- A key gives one entry, which is about it, or none. -/
theorem diffPath_cases (options : DiffOptions) (l r : Definitions) (k : String) :
    diffPath options l r k = [] ∨ ∃ e, diffPath options l r k = [e] ∧ e.path = k := by
  simp only [diffPath, DiffOptions.compared]
  repeat' split
  all_goals simp [DiffEntry.path]

theorem path_of_mem_diffPath {e : DiffEntry Difference} (h : e ∈ diffPath options l r k) :
    e.path = k := by
  rcases diffPath_cases options l r k with hnil | ⟨e', hone, hpath⟩
  · rw [hnil] at h
    cases h
  · rw [hone] at h
    obtain rfl := List.mem_singleton.mp h
    exact hpath

/-- The entries of a key are those that it gives by itself. -/
theorem filter_diff (options : DiffOptions) (l r : Definitions) (k : String) :
    (diff options l r).filter (·.path == k) = diffPath options l r k := by
  have hnodup : (unionPaths l r).Nodup := Dictionary.nodup_keys _
  have hself : (diffPath options l r k).filter (·.path == k) = diffPath options l r k :=
    List.filter_eq_self.mpr fun e he => by simp [path_of_mem_diffPath he]
  have hother : ∀ k' ∈ unionPaths l r, k' ≠ k →
      (diffPath options l r k').filter (·.path == k) = [] := fun k' _ hk =>
    List.filter_eq_nil_iff.mpr fun e he => by simp [path_of_mem_diffPath he, hk]
  rw [diff, filter_flatMap_of_unique hnodup hother, hself]
  split
  case isTrue => rfl
  case isFalse hk =>
    -- a key that leads to a definition is one of the keys of the tree
    have habsent : ∀ t : Definitions, k ∉ t.paths → t.get? k = none := by
      intro t ht
      cases hi : t.index.get? k with
      | none => simp [get?, hi]
      | some location => exact absurd (Dictionary.mem_keys.mpr ⟨location, hi⟩) ht
    rw [mem_unionPaths, not_or] at hk
    simp [diffPath, habsent l hk.1, habsent r hk.2]

theorem mem_diff {e : DiffEntry Difference} :
    e ∈ diff options l r ↔ e ∈ diffPath options l r e.path := by
  rw [← filter_diff, List.mem_filter]
  simp

/-- No key has two entries. -/
theorem nodup_diff (options : DiffOptions) (l r : Definitions) :
    ((diff options l r).map (·.path)).Nodup := by
  refine List.nodup_iff_count_le_one.mpr fun k => ?_
  rw [List.count_eq_countP, List.countP_map, List.countP_eq_length_filter]
  show ((diff options l r).filter (·.path == k)).length ≤ 1
  rw [filter_diff]
  rcases diffPath_cases options l r k with hnil | ⟨e, hone, -⟩
  · simp [hnil]
  · simp [hone]

section Unlimited

variable (whole : options.Unlimited) {x y : Definition}
include whole

theorem diffPath_both (hx : l.get? k = some x) (hy : r.get? k = some y) :
    diffPath options l r k = options.compared k (x.differences y) := by
  simp [diffPath, hx, hy, whole.ignores_eq, whole.exceeds_eq]

theorem diffPath_left (hx : l.get? k = some x) (hy : r.get? k = none) :
    diffPath options l r k = if r.parentMissing x then [] else [.onlyLeft k] := by
  simp [diffPath, hx, hy, whole.ignores_eq, whole.exceeds_eq]

theorem diffPath_right (hx : l.get? k = none) (hy : r.get? k = some y) :
    diffPath options l r k = if l.parentMissing y then [] else [.onlyRight k] := by
  simp [diffPath, hx, hy, whole.ignores_eq, whole.exceeds_eq]

omit whole in
theorem diffPath_neither (hx : l.get? k = none) (hy : r.get? k = none) :
    diffPath options l r k = [] := by
  simp [diffPath, hx, hy]

end Unlimited

/-- Seen from the other side, the entries of a key are the same, if both sides agree on whether it
lies too deep. -/
theorem diffPath_swap (hdepth : ∀ x y, l.get? k = some x → r.get? k = some y →
      options.exceeds x.parent.length = options.exceeds y.parent.length) :
    diffPath options r l k = (diffPath options l r k).map DiffEntry.swap := by
  cases hx : l.get? k with
  | none =>
    cases hy : r.get? k with
    | none => rw [diffPath_neither hx hy, diffPath_neither hy hx, List.map_nil]
    | some y =>
      simp only [diffPath, hx, hy]
      split <;> rfl
  | some x =>
    cases hy : r.get? k with
    | none =>
      simp only [diffPath, hx, hy]
      split <;> rfl
    | some y =>
      simp only [diffPath, hx, hy, hdepth x y hx hy, differences_swap x y,
        DiffOptions.compared_swap]
      split <;> rfl

/-- The comparison of the trees exchanged is the comparison seen from the other side. -/
theorem diff_swap (hdepth : ∀ k x y, l.get? k = some x → r.get? k = some y →
      options.exceeds x.parent.length = options.exceeds y.parent.length) :
    diff options r l = (diff options l r).map DiffEntry.swap := by
  rw [diff, diff, unionPaths_comm, List.map_flatMap]
  exact List.flatMap_congr fun k _ => diffPath_swap (hdepth k)

theorem diff_swap_of_neg (h : options.maxDepth < 0) (l r : Definitions) :
    diff options r l = (diff options l r).map DiffEntry.swap :=
  diff_swap fun _ _ _ _ _ => by rw [DiffOptions.exceeds_of_neg h, DiffOptions.exceeds_of_neg h]

/-! ## 4. The tops of missing branches -/

/-- Whether a branch that the tree lacks begins with the definition. -/
def branchTop (t : Definitions) (x : Definition) : Bool :=
  !t.contains x.key && !t.parentMissing x

section Unlimited

variable (whole : options.Unlimited)
include whole

/-- The entries for one side are the tops of the branches that the other side lacks. -/
theorem onlyLeft_mem_diff (hl : Indexed l) (hr : Indexed r) :
    .onlyLeft k ∈ diff options l r ↔ ∃ x, l.get? k = some x ∧ r.branchTop x = true := by
  rw [mem_diff]
  show _ ∈ diffPath options l r k ↔ _
  cases hx : l.get? k with
  | none =>
    simp only [reduceCtorEq, false_and, exists_false, iff_false]
    intro hmem
    cases hy : r.get? k with
    | none =>
      rw [diffPath_neither hx hy] at hmem
      cases hmem
    | some y =>
      rw [diffPath_right whole hx hy] at hmem
      split at hmem <;> simp at hmem
  | some x =>
    have hkey := hl.key_of_get? hx
    simp only [Option.some.injEq, exists_eq_left', branchTop, hkey, hr.contains_eq]
    cases hy : r.get? k with
    | none =>
      rw [diffPath_left whole hx hy]
      cases r.parentMissing x <;> simp
    | some y =>
      rw [diffPath_both whole hx hy]
      simp only [DiffOptions.compared]
      repeat' split
      all_goals simp

end Unlimited

/-- The parent of a child is missing where the definition above it is. -/
theorem Indexed.parentMissing_child (hl : Indexed l) {p c : Definition} (hp : p ∈ l.walk)
    (hc : c ∈ p.children) : r.parentMissing c = !r.contains p.key := by
  obtain ⟨hroot, hkey, -⟩ := hl.child_of_mem hp hc
  simp [parentMissing, hroot, hkey]

/-- On a chain that leads to what a tree lacks there is a first definition that it lacks, and with
that one the branch begins. -/
theorem Indexed.exists_branchTop (hl : Indexed l) {chain : List Definition} {x : Definition}
    (hchain : chain.IsChain fun p c => c ∈ p.children) (hwalk : ∀ d ∈ chain, d ∈ l.walk)
    (hhead : ∀ d, chain.head? = some d → r.parentMissing d = false)
    (hlast : chain.getLast? = some x) (hlacks : r.contains x.key = false) :
    ∃ before d after, chain = before ++ d :: after ∧ r.branchTop d = true ∧
      ∀ b ∈ before, r.contains b.key = true := by
  induction chain with
  | nil => cases hlast
  | cons a rest ih =>
    cases ha : r.contains a.key with
    | false =>
      refine ⟨[], a, rest, rfl, ?_, by simp⟩
      simp [branchTop, ha, hhead a rfl]
    | true =>
      obtain ⟨hnext, hrest⟩ := List.isChain_cons.mp hchain
      have hlast' : rest.getLast? = some x := by
        cases rest with
        | nil =>
          obtain rfl : a = x := by simpa using hlast
          rw [ha] at hlacks
          cases hlacks
        | cons b more => simpa using hlast
      obtain ⟨before, d, after, rfl, htop, hbefore⟩ :=
        ih hrest (fun d hd => hwalk d (List.mem_cons_of_mem _ hd))
          (fun d hd => by
            rw [hl.parentMissing_child (hwalk a List.mem_cons_self) (hnext d hd), ha]
            rfl) hlast'
      exact ⟨a :: before, d, after, rfl, htop, List.forall_mem_cons.mpr ⟨ha, hbefore⟩⟩

/-- Below what a tree lacks no further branch begins, if the tree has nothing there. -/
theorem Indexed.not_branchTop_below (hl : Indexed l) (hclosed : Closed r l.roots)
    {d : Definition} {after : List Definition}
    (hchain : (d :: after).IsChain fun p c => c ∈ p.children)
    (hwalk : ∀ b ∈ d :: after, b ∈ l.walk) (hlacks : r.contains d.key = false) :
    ∀ b ∈ after, r.branchTop b = false := by
  induction after generalizing d with
  | nil => simp
  | cons c rest ih =>
    obtain ⟨hnext, hrest⟩ := List.isChain_cons.mp hchain
    have hc : c ∈ d.children := hnext c rfl
    have hd : d ∈ l.walk := hwalk d List.mem_cons_self
    have hlacks' : r.contains c.key = false := by
      cases h : r.contains c.key with
      | false => rfl
      | true =>
        have hmem : c ∈ d.walk := by
          rw [walk_eq]
          exact List.mem_cons_of_mem _ (mem_walkAll_of_mem hc)
        rw [hclosed d hd c hmem h] at hlacks
        cases hlacks
    refine List.forall_mem_cons.mpr ⟨?_, ?_⟩
    · simp [branchTop, hl.parentMissing_child hd hc, hlacks]
    · exact ih hrest (fun b hb => hwalk b (List.mem_cons_of_mem _ hb)) hlacks'

/-- What leads down to a definition is in the tree. -/
theorem Indexed.mem_walk_of_chain (hl : Indexed l) {x : Definition} (hx : l.get? k = some x) :
    ∀ d ∈ l.chain k, d ∈ l.walk := by
  obtain ⟨-, hroot, hchain⟩ := hl.consistent.chain k x hx
  refine hchain.induction (· ∈ l.walk) _ ?_ ?_
  · intro p c hc hp
    exact (children_sublist_walkAll hp).subset hc
  · intro hne
    exact mem_walkAll_of_mem (hroot _ (List.head?_eq_some_head hne))

/-- A key that the other tree lacks has on its chain the top of a missing branch. -/
theorem Indexed.exists_branchTop_chain (hl : Indexed l) {x : Definition}
    (hx : l.get? k = some x) (hlacks : r.contains k = false) :
    ∃ before d after, l.chain k = before ++ d :: after ∧ r.branchTop d = true ∧
      ∀ b ∈ before, r.contains b.key = true := by
  obtain ⟨hlast, hroot, hchain⟩ := hl.consistent.chain k x hx
  have hwalk := hl.mem_walk_of_chain hx
  refine hl.exists_branchTop hchain hwalk ?_ hlast ?_
  · intro d hd
    have hmem := hroot d hd
    simp [parentMissing, (hl.mem_roots (mem_walkAll_of_mem hmem)).mp hmem]
  · rwa [hl.key_of_get? hx]

/-! ## 5. The specification -/

/-- Both trees have the same keys, and the definitions of each key match. -/
structure Alike (l r : Definitions) : Prop where
  paths : ∀ k, k ∈ l.paths ↔ k ∈ r.paths
  agree : ∀ k x y, l.get? k = some x → r.get? k = some y → x.Matches y

/-- What entries tell of the keys that `l` has and `r` lacks, `entry` being the kind of entry for
them. -/
structure ReportsBranches (entry : String → DiffEntry Difference) (l r : Definitions)
    (entries : List (DiffEntry Difference)) : Prop where
  /-- Among such a key and those above it in its tree, one has such an entry. -/
  once : ∀ k ∈ l.paths, k ∉ r.paths → ∃ d ∈ l.chain k,
    entries.filter (fun e => decide (∃ a ∈ l.chain k, e = entry a.key)) = [entry d.key]
  /-- No other key has such an entry. -/
  sound : ∀ k, entry k ∈ entries → k ∈ l.paths ∧ k ∉ r.paths

/-- When a comparison without options is empty, and what its entries are otherwise. -/
structure DiffSpec (l r : Definitions) : Prop where
  complete : diff {} l r = [] ↔ Alike l r
  onlyLeft : Coherent l r → ReportsBranches .onlyLeft l r (diff {} l r)
  onlyRight : Coherent l r → ReportsBranches .onlyRight r l (diff {} l r)
  /-- A key of both trees is an entry when its definitions differ. -/
  compared : ∀ k x y, l.get? k = some x → r.get? k = some y →
    (diff {} l r).filter (·.path == k) =
      if x.differences y = [] then [] else [.modified k (x.differences y)]
  /-- Where keys without a difference are listed, each key of both trees is one entry. -/
  listed : ∀ k x y, l.get? k = some x → r.get? k = some y →
    (diff { includeIdentical := true } l r).filter (·.path == k) =
      [if x.differences y = [] then .identical k else .modified k (x.differences y)]

section Spec

variable (hl : Indexed l) (hr : Indexed r)
include hl hr

/-- Where nothing is left out, an empty comparison hides no key of the left tree. -/
theorem paths_subset_of_diff_eq_nil (whole : options.Unlimited) (h : diff options l r = [])
    (hk : k ∈ l.paths) : k ∈ r.paths := by
  obtain ⟨x, hx⟩ := hl.mem_paths_iff_get?.mp hk
  rw [mem_paths_iff_contains]
  cases hlacks : r.contains k with
  | true => rfl
  | false =>
    obtain ⟨before, d, after, hchain, htop, -⟩ := hl.exists_branchTop_chain hx hlacks
    have hd : d ∈ l.walk := hl.mem_walk_of_chain hx d (by simp [hchain])
    have hmem := (onlyLeft_mem_diff whole hl hr).mpr ⟨d, hl.mem_walk.mp hd, htop⟩
    rw [h] at hmem
    cases hmem

theorem diff_eq_nil_iff : diff {} l r = [] ↔ Alike l r := by
  have whole := DiffOptions.unlimited_whole false
  constructor
  · intro h
    have h' : diff {} r l = [] := by rw [diff_swap_of_neg whole.depth l r, h, List.map_nil]
    constructor
    case paths =>
      intro k
      exact ⟨paths_subset_of_diff_eq_nil hl hr whole h,
        paths_subset_of_diff_eq_nil hr hl whole h'⟩
    case agree =>
      intro k x y hx hy
      rw [← differences_eq_nil_iff]
      have hnone := filter_diff {} l r k
      rw [h, List.filter_nil, diffPath_both whole hx hy] at hnone
      simpa [DiffOptions.compared] using hnone
  · intro h
    rw [diff, List.flatMap_eq_nil_iff]
    intro k hk
    have hk' : k ∈ l.paths ∧ k ∈ r.paths := by
      rcases mem_unionPaths.mp hk with hk | hk
      · exact ⟨hk, (h.paths k).mp hk⟩
      · exact ⟨(h.paths k).mpr hk, hk⟩
    obtain ⟨x, hx⟩ := hl.mem_paths_iff_get?.mp hk'.1
    obtain ⟨y, hy⟩ := hr.mem_paths_iff_get?.mp hk'.2
    rw [diffPath_both whole hx hy, differences_eq_nil_iff.mpr (h.agree k x y hx hy)]
    rfl

theorem reportsBranches_onlyLeft (whole : options.Unlimited) (h : Coherent l r) :
    ReportsBranches .onlyLeft l r (diff options l r) := by
  constructor
  case once =>
    intro k hk hlacks
    obtain ⟨x, hx⟩ := hl.mem_paths_iff_get?.mp hk
    rw [mem_paths_iff_contains, Bool.not_eq_true] at hlacks
    obtain ⟨before, d, after, hsplit, htop, hbefore⟩ := hl.exists_branchTop_chain hx hlacks
    have hchain := (hl.consistent.chain k x hx).2.2
    have hwalk := hl.mem_walk_of_chain hx
    rw [hsplit] at hchain hwalk
    have hdlacks : r.contains d.key = false := by
      have := (Bool.and_eq_true _ _ ▸ htop).1
      simpa using this
    have hafter := hl.not_branchTop_below (h.symm.closed hr hl)
      (List.isChain_append.mp hchain).2.1
      (fun b hb => hwalk b (List.mem_append_right _ hb)) hdlacks
    have hget : ∀ b ∈ before ++ d :: after, l.get? b.key = some b :=
      fun b hb => hl.mem_walk.mp (hwalk b hb)
    -- of the chain, the entry of `d` and no other is in the comparison
    have honly : ∀ b ∈ before ++ d :: after, .onlyLeft b.key ∈ diff options l r → b = d := by
      intro b hb hmem
      obtain ⟨b', hb', htop'⟩ := (onlyLeft_mem_diff whole hl hr).mp hmem
      obtain rfl : b = b' := Option.some.inj ((hget b hb).symm.trans hb')
      rcases List.mem_append.mp hb with hb | hb
      · simp [branchTop, hbefore b hb] at htop'
      · rcases List.mem_cons.mp hb with rfl | hb
        · rfl
        · rw [hafter b hb] at htop'
          cases htop'
    have hd : d ∈ before ++ d :: after := by simp
    refine ⟨d, by rw [hsplit]; exact hd, ?_⟩
    refine List.perm_singleton.mp ((List.perm_ext_iff_of_nodup
      ((nodup_diff options l r).of_map.filter _) (List.nodup_singleton _)).mpr ?_)
    intro e
    rw [hsplit, List.mem_filter, decide_eq_true_iff, List.mem_singleton]
    constructor
    · rintro ⟨hmem, b, hb, rfl⟩
      rw [honly b hb hmem]
    · rintro rfl
      exact ⟨(onlyLeft_mem_diff whole hl hr).mpr ⟨d, hget d hd, htop⟩, d, hd, rfl⟩
  case sound =>
    intro k hmem
    obtain ⟨x, hx, htop⟩ := (onlyLeft_mem_diff whole hl hr).mp hmem
    refine ⟨hl.mem_paths_iff_get?.mpr ⟨x, hx⟩, ?_⟩
    rw [mem_paths_iff_contains, Bool.not_eq_true, ← hl.key_of_get? hx]
    have := (Bool.and_eq_true _ _ ▸ htop).1
    simpa using this

theorem reportsBranches_onlyRight (whole : options.Unlimited) (h : Coherent l r) :
    ReportsBranches .onlyRight r l (diff options l r) := by
  obtain ⟨once, sound⟩ := reportsBranches_onlyLeft hr hl whole h.symm
  -- an entry for the right side is, seen from the other side, one for the left side
  have hswap : ∀ (e : DiffEntry Difference) (k : String),
      e.swap = .onlyLeft k ↔ e = .onlyRight k := by
    intro e k
    cases e <;> simp [DiffEntry.swap]
  rw [diff_swap_of_neg whole.depth l r] at once sound
  constructor
  case once =>
    intro k hk hlacks
    obtain ⟨d, hd, hfilter⟩ := once k hk hlacks
    refine ⟨d, hd, ?_⟩
    rw [List.filter_map] at hfilter
    obtain ⟨e, hfilter', he⟩ := List.map_eq_singleton_iff.mp hfilter
    rw [(hswap e d.key).mp he] at hfilter'
    rw [← hfilter']
    simp [hswap, Function.comp_def]
  case sound =>
    intro k hmem
    exact sound k (List.mem_map.mpr ⟨.onlyRight k, hmem, rfl⟩)

theorem diffSpec : DiffSpec l r where
  complete := diff_eq_nil_iff hl hr
  onlyLeft h := reportsBranches_onlyLeft hl hr (DiffOptions.unlimited_whole false) h
  onlyRight h := reportsBranches_onlyRight hl hr (DiffOptions.unlimited_whole false) h
  compared k x y hx hy := by
    rw [filter_diff, diffPath_both (DiffOptions.unlimited_whole false) hx hy]
    cases h : x.differences y <;> simp [DiffOptions.compared]
  listed k x y hx hy := by
    rw [filter_diff, diffPath_both (DiffOptions.unlimited_whole true) hx hy]
    cases h : x.differences y <;> simp [DiffOptions.compared]

end Spec

/-- **The comparison of two trees made by calls is empty exactly when they have the same keys with
definitions that match; and where their keys mean the same paths, it has one entry for each branch
that one of them lacks.** -/
theorem diff_complete (schema₁ schema₂ : SchemaNode) (policy₁ policy₂ : DuplicatePolicy)
    (calls₁ calls₂ : List Call) :
    DiffSpec (build schema₁ policy₁ calls₁) (build schema₂ policy₂ calls₂) :=
  diffSpec (indexed_build schema₁ policy₁ calls₁) (indexed_build schema₂ policy₂ calls₂)

/-- A service that only the right tree has, two steps deep, is one entry. -/
theorem diff_complete_service :
    let left := build default .warn [
      .insertValue (.ofSegments [.fixed "system", .fixed "host-name"]) "edge-01"]
    let right := build default .warn [
      .insertValue (.ofSegments [.fixed "system", .fixed "host-name"]) "edge-02",
      .insertValue (.ofSegments [.fixed "service", .fixed "ssh", .fixed "port"]) "22"]
    diff {} left right = [.onlyRight "service", .modified "system/host-name"
      [⟨"value", "Some(\"edge-01\")", "Some(\"edge-02\")"⟩]] ∧
    ReportsBranches .onlyRight right left (diff {} left right) :=
  ⟨by decide +kernel, (diff_complete _ _ _ _ _ _).onlyRight (by decide +kernel)⟩

end Definitions

end RouterConfig
