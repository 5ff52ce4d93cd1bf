/-
RouterConfig.Proofs.Diff.Restriction — the options of a comparison of
grammars restrict what is listed, and change nothing else.

`diff_eq_filter`: of two grammars that were read, what is listed with a
limit on depth and ignored texts is what is listed without, in the same
order, less the entries that the options do not keep (`DiffOptions.keeps`).

## How the proof goes

The comparison leaves out whole branches: it stops at a node that is ignored
or lies too deep. No entry is lost by that (`Laid.not_keeps_below`), for two
reasons. A path below an ignored one is ignored, since the ignored steps
stand in it as well (`ignores_iff`, `ignores_of_within`). And all entries
below a node lie deeper than it does, those of one side by at least one step
(`Laid.diffAt_eq_filter`, by induction on the two grammars at once). Where
the comparison goes on, each name gives what it would give without
restriction (`Laid.diffChild_eq_filter`).

## Side conditions

Both grammars were read from directory trees, so the path of a node joins
the names that lead to it. No ignored text is empty: the empty text stands
in every path, also in that of the root. The depth of a path counts its
steps (`pathDepth`), and a node of one side only is listed down to one step
below the limit, for it is met while its parent is compared.
-/
import RouterConfig.Proofs.Diff.Levels
import RouterConfig.Proofs.Text.Cutting

namespace RouterConfig

/-! ## 1. Ignored paths -/

theorem Text.occursIn_iff {needle cs : List Char} : occursIn needle cs = true ↔ needle <:+: cs := by
  induction cs with
  | nil => simp [occursIn]
  | cons c rest ih =>
    rw [occursIn, Bool.or_eq_true, List.isPrefixOf_iff_prefix, ih, List.infix_cons_iff]

/-- Between slashes, steps stand in a path exactly when they are all of it, its first steps, its
last ones, or some in between. -/
theorem slashes_infix_iff {steps path : List Char} :
    '/' :: steps ++ ['/'] <:+: '/' :: path ++ ['/'] ↔ path = steps ∨ steps ++ ['/'] <+: path ∨
      '/' :: steps <:+ path ∨ '/' :: steps ++ ['/'] <:+: path := by
  have hlast : '/' :: steps ++ ['/'] <:+ path ++ ['/'] ↔ '/' :: steps <:+ path := by
    rw [List.suffix_append_inj_of_length_eq rfl, and_iff_left rfl]
  rw [List.cons_append, List.cons_append, List.infix_cons_iff, List.cons_prefix_cons,
    and_iff_right rfl, List.prefix_concat_iff, List.append_left_inj, ← List.cons_append,
    List.infix_concat_iff, hlast, eq_comm, or_assoc, or_comm (a := '/' :: steps <:+ path)]

namespace DiffOptions

variable {options : DiffOptions}

theorem ignores_iff {path : String} : options.ignores path = true ↔ ∃ text ∈ options.ignore,
    '/' :: text.toList ++ ['/'] <:+: '/' :: path.toList ++ ['/'] := by
  simp only [ignores, List.any_eq_true, Bool.or_eq_true, beq_iff_eq, List.isPrefixOf_iff_prefix,
    List.isSuffixOf_iff_suffix, Text.occursIn_iff, slashes_infix_iff, String.toList_inj, or_assoc]

/-- What stands below an ignored path is ignored. -/
theorem ignores_of_within {path below : String} (h : options.ignores path = true)
    (hbelow : KeyWithin path below) : options.ignores below = true := by
  obtain ⟨text, htext, hinfix⟩ := ignores_iff.mp h
  refine ignores_iff.mpr ⟨text, htext, ?_⟩
  rcases hbelow with rfl | ⟨tail, rfl⟩
  · exact hinfix
  · refine hinfix.trans (List.IsPrefix.isInfix ⟨tail.toList ++ ['/'], ?_⟩)
    simp

/-- The root is not ignored, unless the empty text is. -/
theorem ignores_root (h : ∀ text ∈ options.ignore, text ≠ "") : options.ignores "" = false := by
  rw [Bool.eq_false_iff, Ne, ignores_iff]
  rintro ⟨text, htext, hinfix⟩
  have hlen := hinfix.length_le
  have hempty : text.toList = [] := by
    rw [← List.length_eq_zero_iff]
    simpa using hlen
  exact h text htext (String.toList_eq_nil_iff.mp hempty)

end DiffOptions

/-! ## 2. Depths -/

/-- How many steps a path has; the root path has none. -/
def pathDepth (path : String) : Nat :=
  if path = "" then 0 else (Text.splitAll '/' path.toList).length

/-- Joined names are as many steps. -/
theorem pathDepth_join {names : List String} (h : ∀ name ∈ names, SchemaNode.Plain name) :
    pathDepth (Text.join "/" names) = names.length := by
  cases names with
  | nil => rfl
  | cons name rest =>
    have hne := Schema.join_ne_empty (List.cons_ne_nil name rest) fun name' hname => (h name' hname).1
    have hsplit := Text.splitAll_join (List.cons_ne_nil name rest) fun name' hname => (h name' hname).2
    have hslash : String.singleton '/' = "/" := rfl
    rw [hslash] at hsplit
    rw [pathDepth, if_neg hne, hsplit, List.length_map]

/-! ## 3. The entries that are listed -/

/-- Whether the entry is of one side only. -/
def DiffEntry.oneSided : DiffEntry α → Bool
  | .identical _ | .modified .. => false
  | .onlyLeft _ | .onlyRight _ => true

namespace DiffOptions

/-- The options with neither a limit on depth nor ignored texts. -/
def unrestricted (options : DiffOptions) : DiffOptions :=
  { includeIdentical := options.includeIdentical }

theorem unlimited_unrestricted (options : DiffOptions) : options.unrestricted.Unlimited :=
  unlimited_whole options.includeIdentical

/-- Whether the options leave an entry in. Nodes of one side may lie one step beyond the limit on
depth. -/
def keeps (options : DiffOptions) (e : DiffEntry Difference) : Bool :=
  !options.ignores e.path && (options.maxDepth < 0 ||
    pathDepth e.path ≤ options.maxDepth + if e.oneSided then 1 else 0)

theorem oneSided_of_mem_compared {options : DiffOptions} {path : String}
    {differences : List Difference} {e : DiffEntry Difference}
    (h : e ∈ options.compared path differences) : e.oneSided = false := by
  unfold compared at h
  repeat' split at h
  all_goals simp_all [DiffEntry.oneSided]

theorem exceeds_iff {options : DiffOptions} {depth : Nat} :
    options.exceeds depth = true ↔ 0 ≤ options.maxDepth ∧ options.maxDepth < depth := by
  simp [exceeds]

theorem keeps_iff {options : DiffOptions} {e : DiffEntry Difference} : options.keeps e = true ↔
    options.ignores e.path = false ∧ (options.maxDepth < 0 ∨
      pathDepth e.path ≤ options.maxDepth + if e.oneSided then 1 else 0) := by
  simp [keeps]

end DiffOptions

namespace SchemaNode

variable {l r : SchemaNode} {name : String} {options : DiffOptions} {depth : Nat}
  {above names : List String} {e : DiffEntry Difference}

/-- An entry of one side is not about the two nodes that are compared. -/
theorem ne_nil_of_oneSided (h : e ∈ diffNames options l r names) (hside : e.oneSided = true) :
    names ≠ [] := by
  rintro rfl
  rw [diffNames_nil] at h
  rw [DiffOptions.oneSided_of_mem_compared h] at hside
  cases hside

/-- Where the comparison stops, it would list nothing below either. -/
theorem Laid.not_keeps_below (hl : Laid above l) (hr : Laid above r)
    (hignore : ∀ text ∈ options.ignore, text ≠ "") {free : DiffOptions}
    (hstop : options.ignores l.path = true ∨ options.exceeds above.length = true)
    (h : e ∈ diffAt free depth l r) : options.keeps e = false := by
  obtain ⟨names, hmem⟩ := hl.exists_mem_diffNames hr h
  obtain ⟨hpath, hplain⟩ := hl.path_of_mem_diffNames hr hmem
  rw [Bool.eq_false_iff, Ne, DiffOptions.keeps_iff, hpath, pathDepth_join hplain, not_and_or]
  rcases hstop with hstop | hstop
  · left
    rw [hl.path_self] at hstop
    rw [Bool.not_eq_false]
    cases names with
    | nil => rwa [List.append_nil]
    | cons name rest =>
      refine DiffOptions.ignores_of_within hstop (.inr ⟨Text.join "/" (name :: rest), ?_⟩)
      refine Text.join_append ?_ (List.cons_ne_nil name rest)
      rintro rfl
      rw [Text.join_nil, DiffOptions.ignores_root hignore] at hstop
      cases hstop
  · right
    rw [DiffOptions.exceeds_iff] at hstop
    rw [List.length_append]
    split
    case isTrue hside =>
      have := List.length_pos_iff.mpr (ne_nil_of_oneSided hmem hside)
      omega
    case isFalse => omega

/-- Where the comparison goes on, a name gives what it would give without restriction, as far as the
options leave it in. -/
theorem Laid.diffChild_eq_filter (hl : Laid above l) (hr : Laid above r)
    (hdepth : options.exceeds above.length = false)
    (hboth : ∀ a b, l.child? name = some a → r.child? name = some b →
      diffAt options (above.length + 1) a b =
        (diffAt options.unrestricted (above.length + 1) a b).filter options.keeps) :
    diffChild options (above.length + 1) l r name =
      (diffChild options.unrestricted (above.length + 1) l r name).filter options.keeps := by
  have hkeeps : ∀ {node child : SchemaNode}, Laid above node → node.child? name = some child →
      ∀ e : DiffEntry Difference, e.path = child.path → e.oneSided = true →
        options.keeps e = !options.ignores child.path := by
    intro node child hnode hchild e hpath hside
    have hlaid := hnode.child? hchild
    have hlimit : options.maxDepth < 0 ∨
        ((above ++ [name]).length : Int) ≤ options.maxDepth + if true then 1 else 0 := by
      rw [Bool.eq_false_iff, Ne, DiffOptions.exceeds_iff] at hdepth
      rw [List.length_append, List.length_singleton, if_pos rfl]
      omega
    rw [Bool.eq_iff_iff, DiffOptions.keeps_iff, hpath, hside, hlaid.path_self,
      pathDepth_join (by simpa using hlaid.plain (.here child)), and_iff_left hlimit,
      Bool.not_eq_true']
  have whole := options.unlimited_unrestricted
  cases ha : l.child? name with
  | none =>
    cases hb : r.child? name with
    | none => rw [diffChild_neither ha hb, diffChild_neither ha hb, List.filter_nil]
    | some b =>
      rw [diffChild_right ha hb, diffChild_right ha hb, whole.ignores_eq,
        if_neg Bool.false_ne_true, List.filter_singleton, hkeeps hr hb _ rfl rfl]
      cases options.ignores b.path <;> rfl
  | some a =>
    cases hb : r.child? name with
    | none =>
      rw [diffChild_left ha hb, diffChild_left ha hb, whole.ignores_eq,
        if_neg Bool.false_ne_true, List.filter_singleton, hkeeps hl ha _ rfl rfl]
      cases options.ignores a.path <;> rfl
    | some b => rw [diffChild_both ha hb, diffChild_both ha hb, hboth a b ha hb]

theorem Laid.diffAt_eq_filter (hl : Laid above l) (hr : Laid above r)
    (hignore : ∀ text ∈ options.ignore, text ≠ "") : diffAt options above.length l r =
      (diffAt options.unrestricted above.length l r).filter options.keeps := by
  refine Laid.induction (motive := fun above l r => diffAt options above.length l r =
    (diffAt options.unrestricted above.length l r).filter options.keeps) ?_ hl hr
  intro above l r hl hr ih
  by_cases hstop : options.ignores l.path = true ∨ options.exceeds above.length = true
  · rw [diffAt_eq hl.distinct hr.distinct, if_pos (by simpa using hstop), eq_comm,
      List.filter_eq_nil_iff]
    intro e he
    rw [hl.not_keeps_below hr hignore hstop he]
    exact Bool.false_ne_true
  · obtain ⟨hkept, hdepth⟩ := not_or.mp hstop
    rw [Bool.not_eq_true] at hkept hdepth
    have whole := options.unlimited_unrestricted
    have hown : ∀ e ∈ options.compared l.path (l.differences r), options.keeps e = true := by
      intro e he
      rw [DiffOptions.keeps_iff, DiffOptions.path_of_mem_compared he,
        DiffOptions.oneSided_of_mem_compared he]
      refine ⟨hkept, ?_⟩
      rw [Bool.eq_false_iff, Ne, DiffOptions.exceeds_iff] at hdepth
      rw [hl.path_self, pathDepth_join (by simpa using hl.plain (.here l)),
        if_neg Bool.false_ne_true]
      omega
    rw [diffAt_eq hl.distinct hr.distinct, diffAt_eq hl.distinct hr.distinct, hkept, hdepth,
      whole.ignores_eq, whole.exceeds_eq, if_neg (by decide), if_neg (by decide),
      List.filter_append, List.filter_flatMap]
    congr 1
    · exact (List.filter_eq_self.mpr hown).symm
    · refine List.flatMap_congr fun name _ => hl.diffChild_eq_filter hr hdepth fun a b ha hb => ?_
      have := ih name a b ha hb
      rwa [List.length_append, List.length_singleton] at this

/-- **The options of a comparison act as a filter.** Of two grammars that were read, what is listed
with a limit on depth and ignored texts, none of them empty, is what is listed without, less the
entries whose path is ignored or lies too deep, and in the same order. -/
theorem diff_eq_filter {l r : SchemaNode} (hl : l.ReadFromDisk) (hr : r.ReadFromDisk)
    (options : DiffOptions) (hignore : ∀ text ∈ options.ignore, text ≠ "") :
    diff options l r =
      (diff { includeIdentical := options.includeIdentical } l r).filter options.keeps :=
  hl.laid.diffAt_eq_filter hr.laid hignore

/-- At the limit on depth the service is compared and the port that one side lacks is listed; with
the port ignored, only the service is. -/
theorem diff_eq_filter_ssh :
    diff { maxDepth := 1, includeIdentical := true } sshWithPort sshAlone =
      [.identical "", .modified "ssh" [⟨"multi", "false", "true"⟩], .onlyLeft "ssh/port"] ∧
    diff { maxDepth := 0, includeIdentical := true } sshWithPort sshAlone = [.identical ""] ∧
    diff { ignore := ["port"] } sshWithPort sshAlone =
      [.modified "ssh" [⟨"multi", "false", "true"⟩]] := by
  refine ⟨?_, ?_, ?_⟩
  all_goals
    rw [diff_eq_filter readFromDisk_sshWithPort readFromDisk_sshAlone _ (by decide), diff_ssh]
    decide +kernel

end SchemaNode

end RouterConfig
