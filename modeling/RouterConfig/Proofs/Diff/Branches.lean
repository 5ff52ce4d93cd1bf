/-
RouterConfig.Proofs.Diff.Branches — a comparison of two grammars misses
nothing and repeats nothing.

`diffSpec_of_readFromDisk`: of two grammars that were read, `DiffSpec`
holds. No path has two entries. A path of both is an entry exactly when its
nodes differ, with the fields in which they do. A branch that one side lacks
is one entry, at its topmost node. The comparison is empty exactly when the
grammars are alike.

## How the proof goes

The entries of a path are those that are said of the nodes at its names,
whatever stands at other names (`Laid.filter_diffAt`, by induction on the
two grammars at once; `Laid.filter_diffChild` says that a name says nothing
of paths that do not go through it). A node that one side lacks need not be
an entry itself, for all below a missing node goes with it. On the way to
the node there is a first one that is missing (`exists_top`), and that one
is the entry; missing names that are below something go on from no other
missing ones (`eq_of_prefix_of_missing`), so it is the only one. An entry
for the right side is, seen from the other side, one for the left.

## Side conditions

Both grammars were read from directory trees, in which no directory has two
entries of one name and no name holds a slash. So a path can be split again
into the names that it joins.
-/
import Mathlib.Data.List.Infix
import RouterConfig.Proofs.Diff.Symmetry

namespace RouterConfig.SchemaNode

variable {l r a b : SchemaNode} {name : String} {options : DiffOptions} {depth : Nat}
  {above rest names : List String} {e : DiffEntry Difference} {path : String}

/-! ## 1. The entries of a path -/

section Filter

variable (hl : Laid above l) (hr : Laid above r)
include hl hr

theorem Laid.path_of_mem_diffAt (h : e ∈ diffAt options depth l r) :
    ∃ names, e.path = Text.join "/" (above ++ names) ∧ ∀ name ∈ above ++ names, Plain name := by
  obtain ⟨names, h⟩ := hl.exists_mem_diffNames hr h
  exact ⟨names, hl.path_of_mem_diffNames hr h⟩

theorem Laid.path_of_mem_diffChild (h : e ∈ diffChild options depth l r name) :
    ∃ rest, e.path = Text.join "/" (above ++ name :: rest) ∧
      ∀ name' ∈ above ++ name :: rest, Plain name' := by
  unfold diffChild at h
  split at h
  case h_1 a b ha hb =>
    obtain ⟨rest, hpath, hplain⟩ := (hl.child? ha).path_of_mem_diffAt (hr.child? hb) h
    rw [List.append_assoc, List.singleton_append] at hpath hplain
    exact ⟨rest, hpath, hplain⟩
  case h_2 a ha hb =>
    split at h
    · cases h
    · obtain rfl := List.mem_singleton.mp h
      refine ⟨[], (hl.child? ha).path_self, ?_⟩
      simpa using (hl.child? ha).plain (.here a)
  case h_3 b ha hb =>
    split at h
    · cases h
    · obtain rfl := List.mem_singleton.mp h
      refine ⟨[], (hr.child? hb).path_self, ?_⟩
      simpa using (hr.child? hb).plain (.here b)
  case h_4 => cases h

/-- A name says nothing of the paths that do not go through it. -/
theorem Laid.filter_diffChild_eq_nil (hnames : ∀ name ∈ above ++ names, Plain name)
    (hother : ∀ rest, names ≠ name :: rest) :
    (diffChild options depth l r name).filter (·.path == Text.join "/" (above ++ names)) = [] := by
  refine List.filter_eq_nil_iff.mpr fun e he => ?_
  obtain ⟨rest, hpath, hplain⟩ := hl.path_of_mem_diffChild hr he
  rw [hpath, beq_iff_eq]
  intro heq
  exact hother rest (List.append_cancel_left (join_injective hplain hnames heq)).symm

end Filter

section Unlimited

variable (whole : options.Unlimited)
include whole

/-- A name says of the paths that go through it what is said of the nodes there. -/
theorem Laid.filter_diffChild (hl : Laid above l) (hr : Laid above r)
    (hnames : ∀ name' ∈ above ++ name :: rest, Plain name')
    (hboth : ∀ a b, l.child? name = some a → r.child? name = some b →
      (diffAt options depth a b).filter (·.path == Text.join "/" (above ++ name :: rest)) =
        diffNames options a b rest) :
    (diffChild options depth l r name).filter (·.path == Text.join "/" (above ++ name :: rest)) =
      diffNames options l r (name :: rest) := by
  -- the path of the child is that of the whole names only when no name is left
  have hself : ∀ {node child : SchemaNode}, Laid above node → node.child? name = some child →
      ((child.path == Text.join "/" (above ++ name :: rest)) = true ↔ rest = []) := by
    intro node child hnode hchild
    rw [(hnode.child? hchild).path_self, beq_iff_eq]
    constructor
    · intro heq
      have hplain : ∀ name' ∈ above ++ [name], Plain name' := by
        simpa using (hnode.child? hchild).plain (.here child)
      have := List.append_cancel_left (join_injective hplain hnames heq)
      exact (List.cons.inj this).2.symm
    · rintro rfl
      rfl
  cases ha : l.child? name with
  | none =>
    cases hb : r.child? name with
    | none => rw [diffChild_neither ha hb, diffNames_neither ha hb, List.filter_nil]
    | some b =>
      simp [diffChild_right ha hb, diffNames_right ha hb, whole.ignores_eq, List.filter_cons,
        DiffEntry.path, hself hr hb]
  | some a =>
    cases hb : r.child? name with
    | none =>
      simp [diffChild_left ha hb, diffNames_left ha hb, whole.ignores_eq, List.filter_cons,
        DiffEntry.path, hself hl ha]
    | some b => rw [diffNames_both ha hb, ← hboth a b ha hb, diffChild_both ha hb]

omit whole in
/-- The entry of a node itself is for its own path. -/
theorem Laid.filter_compared (hl : Laid above l) (hnames : ∀ name ∈ above ++ names, Plain name) :
    (options.compared l.path (l.differences r)).filter (·.path == Text.join "/" (above ++ names)) =
      if names = [] then options.compared l.path (l.differences r) else [] := by
  have hplain : ∀ name ∈ above ++ [], Plain name := hl.plain (.here l)
  split
  case isTrue hnil =>
    refine List.filter_eq_self.mpr fun e he => ?_
    rw [DiffOptions.path_of_mem_compared he, hl.path_self, hnil, List.append_nil, beq_iff_eq]
  case isFalse hne =>
    refine List.filter_eq_nil_iff.mpr fun e he => ?_
    rw [DiffOptions.path_of_mem_compared he, hl.path_eq (.here l), beq_iff_eq]
    intro heq
    exact hne (List.append_cancel_left (join_injective hplain hnames heq)).symm

/-- The entries of a path are what is said of the nodes at its names. -/
theorem Laid.filter_diffAt (hl : Laid above l) (hr : Laid above r)
    (hnames : ∀ name ∈ above ++ names, Plain name) :
    (diffAt options depth l r).filter (·.path == Text.join "/" (above ++ names)) =
      diffNames options l r names := by
  refine Laid.induction (motive := fun above l r => ∀ depth names,
    (∀ name ∈ above ++ names, Plain name) →
      (diffAt options depth l r).filter (·.path == Text.join "/" (above ++ names)) =
        diffNames options l r names) ?_ hl hr depth names hnames
  intro above l r hl hr ih depth names hnames
  rw [diffAt_eq hl.distinct hr.distinct, whole.ignores_eq, whole.exceeds_eq, Bool.or_false,
    if_neg Bool.false_ne_true, List.filter_append, hl.filter_compared hnames]
  cases names with
  | nil =>
    rw [if_pos rfl, List.filter_flatMap, List.flatMap_eq_nil_iff.mpr, List.append_nil,
      diffNames_nil]
    exact fun name _ => hl.filter_diffChild_eq_nil hr hnames (by simp)
  | cons name rest =>
    have hother : ∀ name' ∈ childNames l r, name' ≠ name → (diffChild options (depth + 1) l r
        name').filter (·.path == Text.join "/" (above ++ name :: rest)) = [] := fun name' _ hne =>
      hl.filter_diffChild_eq_nil hr hnames (by simp [Ne.symm hne])
    rw [if_neg (List.cons_ne_nil name rest), List.nil_append,
      filter_flatMap_of_unique (nodup_childNames l r) hother]
    split
    case isTrue =>
      refine hl.filter_diffChild whole hr hnames fun a b ha hb => ?_
      have := ih name a b ha hb (depth + 1) rest
      rw [List.append_assoc, List.singleton_append] at this
      exact this hnames
    case isFalse hname =>
      obtain ⟨ha, hb⟩ := not_mem_childNames hname
      rw [diffNames_neither ha hb]

theorem Laid.mem_diffAt (hl : Laid above l) (hr : Laid above r) :
    e ∈ diffAt options depth l r ↔ ∃ names, e ∈ diffNames options l r names := by
  constructor
  · exact hl.exists_mem_diffNames hr
  · rintro ⟨names, h⟩
    rw [← hl.filter_diffAt whole hr (hl.path_of_mem_diffNames hr h).2] at h
    exact (List.mem_filter.mp h).1

end Unlimited

/-! ## 2. Missing branches -/

/-- The grammar has the node under the path. -/
def At (root : SchemaNode) (path : String) (node : SchemaNode) : Prop :=
  ∃ names, root.Leads names node ∧ node.path = path

theorem At.path_eq (h : l.At path a) : a.path = path := by
  obtain ⟨names, -, hpath⟩ := h
  exact hpath

theorem Laid.at_join_iff (h : Laid [] l) (hnames : ∀ name ∈ names, Plain name) :
    l.At (Text.join "/" names) a ↔ l.Leads names a := by
  constructor
  · rintro ⟨names', hleads, hpath⟩
    rw [h.path_eq hleads, List.nil_append] at hpath
    obtain rfl := join_injective (h.plain hleads) hnames hpath
    exact hleads
  · intro hleads
    exact ⟨names, hleads, h.path_eq hleads⟩

theorem Laid.lacks_join_iff (h : Laid [] l) (hnames : ∀ name ∈ names, Plain name) :
    (∀ a, ¬ l.At (Text.join "/" names) a) ↔ l.descend? names = none := by
  simp only [h.at_join_iff hnames, ← h.distinct.descend?_eq_some_iff, Option.eq_none_iff_forall_ne_some,
    ne_eq]

theorem descend?_append {more : List String} :
    l.descend? (names ++ more) = (l.descend? names).bind (·.descend? more) := by
  induction names generalizing l with
  | nil => rfl
  | cons name rest ih =>
    rw [List.cons_append, descend?, descend?]
    cases l.child? name with
    | none => rfl
    | some child => exact ih

/-- Below a missing node all are missing. -/
theorem descend?_eq_none_of_prefix {top : List String} (h : l.descend? top = none)
    (hstarts : top <+: names) : l.descend? names = none := by
  obtain ⟨more, rfl⟩ := hstarts
  rw [descend?_append, h, Option.bind_none]

/-- On the way to a missing node there is a first one that is missing. -/
theorem exists_top (h : l.descend? names = none) : ∃ top, top <+: names ∧ l.descend? top = none ∧
    (l.descend? top.dropLast).isSome ∧ ∀ p, p <+: names → l.descend? p = none → top <+: p := by
  induction names generalizing l with
  | nil => cases h
  | cons name rest ih =>
    cases hchild : l.child? name with
    | none =>
      refine ⟨[name], List.cons_prefix_cons.mpr ⟨rfl, List.nil_prefix⟩, ?_, rfl, ?_⟩
      · simp [descend?, hchild]
      · intro p hp hnone
        cases p with
        | nil => cases hnone
        | cons name' rest' =>
          obtain ⟨rfl, -⟩ := List.cons_prefix_cons.mp hp
          exact List.cons_prefix_cons.mpr ⟨rfl, List.nil_prefix⟩
    | some child =>
      have hdescend : ∀ p, l.descend? (name :: p) = child.descend? p := by
        simp [descend?, hchild]
      rw [hdescend] at h
      obtain ⟨top, htop, hnone, hsome, hleast⟩ := ih h
      refine ⟨name :: top, List.cons_prefix_cons.mpr ⟨rfl, htop⟩, ?_, ?_, ?_⟩
      · rwa [hdescend]
      · cases top with
        | nil => cases hnone
        | cons first more => rwa [List.dropLast_cons_cons, hdescend]
      · intro p hp hnone'
        cases p with
        | nil => cases hnone'
        | cons name' rest' =>
          obtain ⟨rfl, hrest⟩ := List.cons_prefix_cons.mp hp
          rw [hdescend] at hnone'
          exact List.cons_prefix_cons.mpr ⟨rfl, hleast rest' hrest hnone'⟩

/-- Missing names that are below something go on from no other missing ones. -/
theorem eq_of_prefix_of_missing {top : List String} (h : top <+: names) (hmissing : l.descend? top = none)
    (habove : (l.descend? names.dropLast).isSome) : names = top := by
  obtain ⟨more, rfl⟩ := h
  cases more using List.reverseRecOn with
  | nil => rw [List.append_nil]
  | append_singleton more name =>
    rw [← List.append_assoc, List.dropLast_concat,
      descend?_eq_none_of_prefix hmissing (List.prefix_append top more)] at habove
    cases habove

theorem onlyLeft_mem_diffNames : .onlyLeft path ∈ diffNames options l r names ↔
    ∃ a, l.descend? names = some a ∧ r.descend? names = none ∧
      (r.descend? names.dropLast).isSome ∧ path = a.path := by
  unfold diffNames DiffOptions.compared
  cases l.descend? names with
  | none => cases r.descend? names <;> simp
  | some a =>
    cases r.descend? names with
    | none => simp
    | some b =>
      simp only [reduceCtorEq, false_and, and_false, exists_false, iff_false]
      repeat' split
      all_goals simp

/-! ## 3. What a comparison reports -/

/-- The fields in which two nodes differ. -/
def differingFields (a b : SchemaNode) : List String :=
  (if a.name = b.name then [] else ["name"]) ++ (if a.type = b.type then [] else ["type"]) ++
    (if a.isTag = b.isTag then [] else ["is_tag"]) ++ if a.multi = b.multi then [] else ["multi"]

theorem map_field_differences (h : a.path = b.path) :
    (a.differences b).map (·.field) = a.differingFields b := by
  have hfield : ∀ {α : Type} [DecidableEq α] (field : String) (render : α → String) (x y : α),
      (Difference.ofField field render x y).map (·.field) = if x = y then [] else [field] := by
    intro α _ field render x y
    unfold Difference.ofField
    split <;> rfl
  simp only [differences, List.map_append, hfield, if_pos h, List.append_nil, differingFields]

theorem differences_eq_nil_iff_fields (h : a.path = b.path) :
    a.differences b = [] ↔ a.differingFields b = [] := by
  rw [← map_field_differences h, List.map_eq_nil_iff]

/-- The grammars have the same paths, and their nodes under a path agree in all fields that a
comparison looks at. -/
structure Alike (l r : SchemaNode) : Prop where
  paths : ∀ path, (∃ a, l.At path a) ↔ ∃ b, r.At path b
  agree : ∀ path a b, l.At path a → r.At path b → a.differingFields b = []

/-- The entries that `entry` makes are, of what `l` has and `r` lacks, one for each branch. -/
structure ReportsBranches (entry : String → DiffEntry Difference) (l r : SchemaNode)
    (entries : List (DiffEntry Difference)) : Prop where
  /-- On the way to a node that `r` lacks there is a topmost node that `r` lacks; for that one there
  is an entry, and for no other on the way. -/
  once : ∀ names a, l.Leads names a → (∀ b, ¬ r.At a.path b) →
    ∃ top, top <+: names ∧ (∀ b, ¬ r.At (Text.join "/" top) b) ∧
      (∀ p, p <+: names → (∀ b, ¬ r.At (Text.join "/" p) b) → top <+: p) ∧
      entries.filter (fun e => decide (∃ p ∈ names.inits, e = entry (Text.join "/" p))) =
        [entry (Text.join "/" top)]
  /-- Nothing else has such an entry. -/
  sound : ∀ path, entry path ∈ entries → (∃ a, l.At path a) ∧ ∀ b, ¬ r.At path b

/-- What a comparison without options reports. -/
structure DiffSpec (l r : SchemaNode) : Prop where
  /-- No path has two entries. -/
  nodup : ((diff {} l r).map (·.path)).Nodup
  /-- A path of both grammars is an entry when its nodes differ, with one difference for each field
  in which they do. -/
  compared : ∀ path a b, l.At path a → r.At path b →
    (diff {} l r).filter (·.path == path) =
      (if a.differingFields b = [] then [] else [.modified path (a.differences b)]) ∧
    (a.differences b).map (·.field) = a.differingFields b
  onlyLeft : ReportsBranches .onlyLeft l r (diff {} l r)
  onlyRight : ReportsBranches .onlyRight r l (diff {} l r)
  complete : diff {} l r = [] ↔ Alike l r

section Spec

variable (whole : options.Unlimited) (hl : Laid [] l) (hr : Laid [] r)
include whole hl hr

theorem Laid.onlyLeft_mem_diff : .onlyLeft path ∈ diff options l r ↔
    ∃ names a, l.Leads names a ∧ r.descend? names = none ∧
      (r.descend? names.dropLast).isSome ∧ path = a.path := by
  rw [diff, hl.mem_diffAt whole hr]
  simp only [onlyLeft_mem_diffNames, hl.distinct.descend?_eq_some_iff]

/-- On the way to a node there is an entry for the names that the other side lacks
below something. -/
theorem Laid.onlyLeft_join_mem_diff (hleads : l.Leads names a) {p : List String} (hp : p <+: names) :
    .onlyLeft (Text.join "/" p) ∈ diff options l r ↔
      r.descend? p = none ∧ (r.descend? p.dropLast).isSome := by
  rw [hl.onlyLeft_mem_diff whole hr]
  constructor
  · rintro ⟨names', a', hleads', hnone, habove, hpath⟩
    rw [hl.path_eq hleads', List.nil_append] at hpath
    obtain rfl := join_injective (fun name hname => hl.plain hleads name (hp.subset hname))
      (hl.plain hleads') hpath
    exact ⟨hnone, habove⟩
  · rintro ⟨hnone, habove⟩
    obtain ⟨more, rfl⟩ := hp
    have hsome := hl.distinct.descend?_eq_some_iff.mpr hleads
    rw [descend?_append, Option.bind_eq_some_iff] at hsome
    obtain ⟨first, hfirst, -⟩ := hsome
    have hfirst := hl.distinct.descend?_eq_some_iff.mp hfirst
    exact ⟨p, first, hfirst, hnone, habove, (hl.path_eq hfirst).symm⟩

theorem Laid.nodup_diff : ((diff options l r).map (·.path)).Nodup := by
  refine List.nodup_iff_count_le_one.mpr fun path => ?_
  rw [List.count_eq_countP, List.countP_map, List.countP_eq_length_filter]
  by_cases hpath : ∃ e ∈ diff options l r, e.path = path
  · obtain ⟨e, he, rfl⟩ := hpath
    obtain ⟨names, hpath, hnames⟩ := hl.path_of_mem_diffAt hr he
    show ((diff options l r).filter (·.path == e.path)).length ≤ 1
    rw [hpath, diff, hl.filter_diffAt whole hr hnames]
    unfold diffNames DiffOptions.compared
    repeat' split
    all_goals simp
  · rw [List.filter_eq_nil_iff.mpr]
    · exact Nat.zero_le 1
    · intro e he heq
      exact hpath ⟨e, he, by simpa using heq⟩

theorem Laid.reportsBranches_onlyLeft : ReportsBranches .onlyLeft l r (diff options l r) := by
  constructor
  case once =>
    intro names a hleads hlacks
    have hnone : ∀ p, p <+: names →
        ((∀ b, ¬ r.At (Text.join "/" p) b) ↔ r.descend? p = none) := fun p hp =>
      hr.lacks_join_iff fun name hname => hl.plain hleads name (hp.subset hname)
    rw [hl.path_eq hleads, List.nil_append, hnone names (List.prefix_refl names)] at hlacks
    obtain ⟨top, htop, hmissing, habove, hleast⟩ := exists_top hlacks
    refine ⟨top, htop, (hnone top htop).mpr hmissing,
      fun p hp hp' => hleast p hp ((hnone p hp).mp hp'), ?_⟩
    refine List.perm_singleton.mp ((List.perm_ext_iff_of_nodup
      ((hl.nodup_diff whole hr).of_map.filter _) (List.nodup_singleton _)).mpr ?_)
    intro e
    rw [List.mem_filter, decide_eq_true_iff, List.mem_singleton]
    constructor
    · rintro ⟨hmem, p, hp, rfl⟩
      rw [List.mem_inits] at hp
      obtain ⟨hnone', habove'⟩ := (hl.onlyLeft_join_mem_diff whole hr hleads hp).mp hmem
      rw [eq_of_prefix_of_missing (hleast p hp hnone') hmissing habove']
    · rintro rfl
      exact ⟨(hl.onlyLeft_join_mem_diff whole hr hleads htop).mpr ⟨hmissing, habove⟩, top,
        (List.mem_inits _ _).mpr htop, rfl⟩
  case sound =>
    intro path hmem
    obtain ⟨names, a, hleads, hnone, -, rfl⟩ := (hl.onlyLeft_mem_diff whole hr).mp hmem
    refine ⟨⟨a, names, hleads, rfl⟩, ?_⟩
    rw [hl.path_eq hleads, List.nil_append]
    exact (hr.lacks_join_iff (hl.plain hleads)).mpr hnone

/-- An entry for the right side is, seen from the other side, one for the left side. -/
theorem Laid.reportsBranches_onlyRight : ReportsBranches .onlyRight r l (diff options l r) := by
  obtain ⟨once, sound⟩ := hr.reportsBranches_onlyLeft whole hl
  have hswap : ∀ (e : DiffEntry Difference) (path : String),
      e.swap = .onlyLeft path ↔ e = .onlyRight path := by
    intro e path
    cases e <;> simp [DiffEntry.swap]
  have hdiff : diff options r l = (diff options l r).map DiffEntry.swap := hl.diffAt_swap hr 0
  rw [hdiff] at once sound
  constructor
  case once =>
    intro names a hleads hlacks
    obtain ⟨top, htop, hmissing, hleast, hfilter⟩ := once names a hleads hlacks
    refine ⟨top, htop, hmissing, hleast, ?_⟩
    rw [List.filter_map] at hfilter
    obtain ⟨e, hfilter', he⟩ := List.map_eq_singleton_iff.mp hfilter
    rw [(hswap e _).mp he] at hfilter'
    rw [← hfilter']
    refine List.filter_congr fun e _ => decide_eq_decide.mpr ?_
    simp only [hswap]
  case sound =>
    intro path hmem
    exact sound path (List.mem_map.mpr ⟨.onlyRight path, hmem, rfl⟩)

/-- The entries of a path of both grammars are those of its two nodes. -/
theorem Laid.filter_diff (ha : l.At path a) (hb : r.At path b) :
    (diff options l r).filter (·.path == path) = options.compared path (a.differences b) := by
  obtain ⟨names, hleads, rfl⟩ := ha
  have hpath : a.path = Text.join "/" names := hl.path_eq hleads
  have hnames : ∀ name ∈ names, Plain name := hl.plain hleads
  rw [hpath, hr.at_join_iff hnames] at hb
  have hfilter : (diff options l r).filter (·.path == Text.join "/" names) =
      diffNames options l r names := hl.filter_diffAt whole hr hnames
  rw [← hpath] at hfilter
  rw [hfilter, diffNames, hl.distinct.descend?_eq_some_iff.mpr hleads,
    hr.distinct.descend?_eq_some_iff.mpr hb]

/-- Where nothing is left out, an empty comparison hides no path of the left grammar. -/
theorem Laid.exists_at_of_diff_eq_nil (h : diff options l r = []) (ha : l.At path a) :
    ∃ b, r.At path b := by
  obtain ⟨names, hleads, rfl⟩ := ha
  by_contra hlacks
  obtain ⟨top, -, -, -, hfilter⟩ := (hl.reportsBranches_onlyLeft whole hr).once names a hleads
    (not_exists.mp hlacks)
  rw [h] at hfilter
  cases hfilter

end Spec

theorem Laid.diff_eq_nil_iff (hl : Laid [] l) (hr : Laid [] r) : diff {} l r = [] ↔ Alike l r := by
  have whole := DiffOptions.unlimited_whole false
  constructor
  · intro h
    have h' : diff {} r l = [] := by
      rw [diff, hl.diffAt_swap hr 0, ← diff, h, List.map_nil]
    constructor
    case paths =>
      intro path
      constructor
      · rintro ⟨_, ha⟩
        exact hl.exists_at_of_diff_eq_nil whole hr h ha
      · rintro ⟨_, hb⟩
        exact hr.exists_at_of_diff_eq_nil whole hl h' hb
    case agree =>
      intro path a b ha hb
      have hfilter := hl.filter_diff whole hr ha hb
      rw [h, List.filter_nil] at hfilter
      rw [← differences_eq_nil_iff_fields (ha.path_eq.trans hb.path_eq.symm)]
      simpa [DiffOptions.compared] using hfilter
  · intro h
    refine List.eq_nil_iff_forall_not_mem.mpr fun e he => ?_
    obtain ⟨names, he⟩ := hl.exists_mem_diffNames hr he
    have hnames : ∀ name ∈ names, Plain name := (hl.path_of_mem_diffNames hr he).2
    have hmissing : l.descend? names = none ↔ r.descend? names = none := by
      rw [← hl.lacks_join_iff hnames, ← hr.lacks_join_iff hnames, ← not_exists, ← not_exists,
        h.paths]
    unfold diffNames at he
    split at he
    case h_1 a b ha hb =>
      have hat := (hl.at_join_iff hnames).mpr (hl.distinct.descend?_eq_some_iff.mp ha)
      have hbt := (hr.at_join_iff hnames).mpr (hr.distinct.descend?_eq_some_iff.mp hb)
      have hnone := (differences_eq_nil_iff_fields (hat.path_eq.trans hbt.path_eq.symm)).mpr
        (h.agree _ a b hat hbt)
      rw [hnone] at he
      cases he
    case h_2 a ha hb =>
      rw [hmissing.mpr hb] at ha
      cases ha
    case h_3 b ha hb =>
      rw [hmissing.mp ha] at hb
      cases hb
    case h_4 => cases he

/-- **What the comparison of two grammars that were read reports.** No path has two entries; a path
of both is an entry exactly when its nodes differ; and a branch that one side lacks is one entry, at
its topmost node. -/
theorem diffSpec_of_readFromDisk (hl : l.ReadFromDisk) (hr : r.ReadFromDisk) : DiffSpec l r := by
  have whole := DiffOptions.unlimited_whole false
  constructor
  case nodup => exact hl.laid.nodup_diff whole hr.laid
  case onlyLeft => exact hl.laid.reportsBranches_onlyLeft whole hr.laid
  case onlyRight => exact hl.laid.reportsBranches_onlyRight whole hr.laid
  case complete => exact hl.laid.diff_eq_nil_iff hr.laid
  case compared =>
    intro path a b ha hb
    have hpath : a.path = b.path := ha.path_eq.trans hb.path_eq.symm
    refine ⟨?_, map_field_differences hpath⟩
    rw [hl.laid.filter_diff whole hr.laid ha hb]
    simp only [← differences_eq_nil_iff_fields hpath]
    cases h : a.differences b <;> simp [DiffOptions.compared]

/-- The port that only one side has is one entry, and that of its service is another. -/
theorem diffSpec_ssh : DiffSpec sshWithPort sshAlone ∧
    diff {} sshWithPort sshAlone =
      [.modified "ssh" [⟨"multi", "false", "true"⟩], .onlyLeft "ssh/port"] :=
  ⟨diffSpec_of_readFromDisk readFromDisk_sshWithPort readFromDisk_sshAlone, diff_ssh false⟩

end RouterConfig.SchemaNode
