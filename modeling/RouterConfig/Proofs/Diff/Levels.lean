/-
RouterConfig.Proofs.Diff.Levels — the comparison of two grammars, level by
level.

The comparison goes down the left grammar and looks the names of its nodes
up in the right one. What it says is symmetric all the same: of two nodes
their own entry, and then for each name that a child of either has, in
order, what `diffChild` says of that name (`diffAt_eq`). A grammar that was
read from a disk has the path of every node from the names that lead to it
(`Laid`), so the two sides of a comparison agree on paths. `Laid.induction`
is the induction along both.
-/
import RouterConfig.Proofs.Diff.Completeness
import RouterConfig.Proofs.Schema.Mirror
import RouterConfig.Diff.Schema

namespace RouterConfig

/-! ## 1. Grammars that were read -/

/-- No subdirectory has a slash in its name. -/
def Listing.Slashless (entries : Listing) : Prop :=
  ∀ {names inner}, Listing.Leads entries names inner → ∀ name ∈ names, '/' ∉ name.toList

theorem Listing.slashless_of_inner {entries : Listing}
    (hinner : ∀ name inner, (name, .directory inner) ∈ entries →
      '/' ∉ name.toList ∧ Slashless inner) : Slashless entries := by
  intro names target hleads
  cases hleads with
  | here => simp
  | step hmem hleads =>
    rw [List.forall_mem_cons]
    exact ⟨(hinner _ _ hmem).1, (hinner _ _ hmem).2 hleads⟩

namespace SchemaNode

/-- The grammar was read from a directory tree of a file system. -/
inductive ReadFromDisk : SchemaNode → Prop
  | mk {disk : Disk} {place : String} {entries : Listing} {node : SchemaNode}
      (listed : disk.readDirectory place = .ok entries) (sound : Listing.Sound entries)
      (slashless : Listing.Slashless entries) (read : Schema.ofDisk disk place = .ok node) :
      ReadFromDisk node

/-- A word that a path can be joined from and be told apart again. -/
def Plain (name : String) : Prop := name ≠ "" ∧ '/' ∉ name.toList

/-- Plain names are told apart when they are joined. -/
theorem join_injective {names names' : List String} (h : ∀ name ∈ names, Plain name)
    (h' : ∀ name ∈ names', Plain name) (heq : Text.join "/" names = Text.join "/" names') :
    names = names' := by
  by_cases hne : names = []
  · subst hne
    by_contra hne'
    exact Schema.join_ne_empty (Ne.symm hne') (fun name hname => (h' name hname).1) heq.symm
  · by_cases hne' : names' = []
    · subst hne'
      exact absurd heq (Schema.join_ne_empty hne fun name hname => (h name hname).1)
    · exact KeyWithin.eq_of_join (fun name hname => (h name hname).2)
        (fun name hname => (h' name hname).2) hne hne' heq

/-- The node stands at the names `above`, and it and all below it have the paths that the names
give. -/
structure Laid (above : List String) (node : SchemaNode) : Prop where
  distinct : node.Distinct
  path_eq : ∀ {names target}, node.Leads names target →
    target.path = Text.join "/" (above ++ names)
  plain : ∀ {names target}, node.Leads names target → ∀ name ∈ above ++ names, Plain name

namespace Laid

variable {above : List String} {node below : SchemaNode}

theorem path_self (h : Laid above node) : node.path = Text.join "/" above := by
  rw [h.path_eq (.here node), List.append_nil]

theorem child (h : Laid above node) (hmem : below ∈ node.children) :
    Laid (above ++ [below.name]) below where
  distinct := h.distinct.child hmem
  path_eq hleads := by
    rw [h.path_eq (.step hmem hleads), List.append_assoc, List.singleton_append]
  plain hleads := by
    rw [List.append_assoc, List.singleton_append]
    exact h.plain (.step hmem hleads)

theorem child? {name : String} (h : Laid above node) (hbelow : node.child? name = some below) :
    Laid (above ++ [name]) below := by
  obtain ⟨hmem, rfl⟩ := h.distinct.child?_eq_some_iff.mp hbelow
  exact h.child hmem

end Laid

/-- A grammar that was read is laid out by the names of its directories. -/
theorem ReadFromDisk.laid {node : SchemaNode} (h : node.ReadFromDisk) : Laid [] node := by
  obtain ⟨hdisk, hsound, hslash, hread⟩ := h
  obtain ⟨hreadable, hreads⟩ := Schema.reads_of_ofDisk hdisk hsound hread
  constructor
  · exact hreads.nodeDistinct hsound hreadable
  · intro names target hleads
    exact (hreads.mirrors hsound hreadable).path_eq hleads
  · intro names target hleads name hname
    obtain ⟨inner, hinner, -⟩ := hreads.leads hsound hreadable hleads
    exact ⟨hsound.ne_empty hinner name hname, hslash hinner name hname⟩

/-! ## 2. Induction along two grammars -/

/-- What holds of a node when it holds of its children holds of all nodes. -/
theorem induction {motive : SchemaNode → Prop}
    (step : ∀ node, (∀ child ∈ node.children, motive child) → motive node) (node : SchemaNode) :
    motive node := by
  refine step node ?_
  intro child hmem
  have hsmaller : sizeOf child < sizeOf node := by
    have := List.sizeOf_lt_of_mem hmem
    cases node
    simp only [mk.sizeOf_spec] at this ⊢
    omega
  exact induction step child
termination_by sizeOf node

/-- What holds of two nodes at some names when it holds of their children of one name holds of all
nodes at the same names. -/
theorem Laid.induction {motive : List String → SchemaNode → SchemaNode → Prop}
    (step : ∀ above l r, Laid above l → Laid above r →
      (∀ name a b, l.child? name = some a → r.child? name = some b →
        motive (above ++ [name]) a b) → motive above l r)
    {above : List String} {l r : SchemaNode} (hl : Laid above l) (hr : Laid above r) :
    motive above l r := by
  induction l using SchemaNode.induction generalizing above r with
  | step l ih =>
    refine step above l r hl hr ?_
    intro name a b ha hb
    obtain ⟨hmem, -⟩ := hl.distinct.child?_eq_some_iff.mp ha
    exact ih a hmem (hl.child? ha) (hr.child? hb)

/-! ## 3. One level -/

/-- The names of the children of two nodes, in order. -/
def childNames (l r : SchemaNode) : List String :=
  (Dictionary.ofList ((l.children ++ r.children).map fun child => (child.name, ()))).keys

/-- The entries for one name below two nodes. -/
def diffChild (options : DiffOptions) (depth : Nat) (l r : SchemaNode) (name : String) :
    List (DiffEntry Difference) :=
  match l.child? name, r.child? name with
  | some a, some b => diffAt options depth a b
  | some a, none => if options.ignores a.path then [] else [.onlyLeft a.path]
  | none, some b => if options.ignores b.path then [] else [.onlyRight b.path]
  | none, none => []

variable {l r node : SchemaNode} {name : String} {options : DiffOptions} {depth : Nat}

section DiffChild

variable {l r a b : SchemaNode} {name : String} {options : DiffOptions} {depth : Nat}

/-- A name of both sides is compared further down. -/
theorem diffChild_both (ha : l.child? name = some a) (hb : r.child? name = some b) :
    diffChild options depth l r name = diffAt options depth a b := by
  rw [diffChild, ha, hb]

/-- A name of one side is one entry, unless it is ignored. -/
theorem diffChild_left (ha : l.child? name = some a) (hb : r.child? name = none) :
    diffChild options depth l r name =
      if options.ignores a.path then [] else [.onlyLeft a.path] := by
  rw [diffChild, ha, hb]

theorem diffChild_right (ha : l.child? name = none) (hb : r.child? name = some b) :
    diffChild options depth l r name =
      if options.ignores b.path then [] else [.onlyRight b.path] := by
  rw [diffChild, ha, hb]

theorem diffChild_neither (ha : l.child? name = none) (hb : r.child? name = none) :
    diffChild options depth l r name = [] := by
  rw [diffChild, ha, hb]

end DiffChild

theorem mem_childNames : name ∈ childNames l r ↔
    name ∈ l.children.map (·.name) ∨ name ∈ r.children.map (·.name) := by
  simp [childNames, Dictionary.mem_keys_ofList, List.map_append]

/-- The names of both sides come in one order, whichever side is first. -/
theorem childNames_comm (l r : SchemaNode) : childNames r l = childNames l r := by
  refine Dictionary.keys_eq_of_mem_iff fun name => ?_
  rw [← childNames, ← childNames, mem_childNames, mem_childNames, or_comm]

theorem nodup_childNames (l r : SchemaNode) : (childNames l r).Nodup := Dictionary.nodup_keys _

theorem child?_isSome_iff : (node.child? name).isSome = true ↔
    name ∈ node.children.map (·.name) := by
  simp [child?, List.find?_isSome]

theorem not_mem_childNames (h : name ∉ childNames l r) :
    l.child? name = none ∧ r.child? name = none := by
  rw [mem_childNames, not_or, ← child?_isSome_iff, ← child?_isSome_iff] at h
  simpa using h

/-- Parts under different names are joined in the order of the names. -/
theorem joinByName_eq {α : Type} {parts : List (String × List α)} {names : List String}
    {f : String → List α} (hnodup : (parts.map (·.1)).Nodup) (hnames : names.Pairwise (· < ·))
    (hmem : ∀ name, name ∈ names ↔ name ∈ parts.map (·.1)) (hparts : ∀ p ∈ parts, p.2 = f p.1) :
    joinByName parts = names.flatMap f := by
  have hperm := List.mergeSort_perm parts fun a b => decide (a.1 ≤ b.1)
  have hsorted : ((parts.mergeSort fun a b => decide (a.1 ≤ b.1)).map (·.1)).Pairwise (· ≤ ·) := by
    refine List.pairwise_map.mpr ?_
    refine (List.pairwise_mergeSort (fun a b c hab hbc => ?_) (fun a b => ?_) parts).imp ?_
    · exact decide_eq_true (String.le_trans (of_decide_eq_true hab) (of_decide_eq_true hbc))
    · simpa using String.le_total a.1 b.1
    · exact fun h => of_decide_eq_true h
  have heq : (parts.mergeSort fun a b => decide (a.1 ≤ b.1)).map (·.1) = names := by
    refine List.Perm.eq_of_pairwise (fun _ _ _ _ => String.le_antisymm) hsorted
      (hnames.imp fun h => String.not_lt.mp (String.lt_asymm h)) ?_
    refine (List.perm_ext_iff_of_nodup ((hperm.map _).nodup_iff.mpr hnodup)
      (hnames.imp fun h => String.ne_of_lt h)).mpr fun name => ?_
    rw [(hperm.map _).mem_iff, hmem]
  rw [joinByName, ← heq, List.flatMap_map]
  exact List.flatMap_congr fun p hp => hparts p (hperm.mem_iff.mp hp)

theorem map_name_diffChildren (nodes : List SchemaNode) :
    (diffChildren options depth nodes r).map (·.1) = nodes.map (·.name) := by
  induction nodes with
  | nil => rfl
  | cons node rest ih => rw [diffChildren, List.map_cons, List.map_cons, ih]

/-- A child of the left side is compared with the child of its name, or is one entry. -/
theorem mem_diffChildren {nodes : List SchemaNode} {p : String × List (DiffEntry Difference)}
    (h : p ∈ diffChildren options depth nodes r) : ∃ a ∈ nodes, p = (a.name,
      match r.child? a.name with
      | some b => diffAt options depth a b
      | none => if options.ignores a.path then [] else [.onlyLeft a.path]) := by
  induction nodes with
  | nil => cases h
  | cons node rest ih =>
    rw [diffChildren] at h
    rcases List.mem_cons.mp h with rfl | h
    · exact ⟨node, List.mem_cons_self, rfl⟩
    · obtain ⟨a, ha, heq⟩ := ih h
      exact ⟨a, List.mem_cons_of_mem _ ha, heq⟩

/-- The entries for the children of two nodes, each under its name, as they are found. -/
def childParts (options : DiffOptions) (depth : Nat) (l r : SchemaNode) :
    List (String × List (DiffEntry Difference)) :=
  diffChildren options depth l.children r ++ onlyRightParts options l.children r.children

section ChildParts

variable {b : SchemaNode}

theorem mem_onlyRight : b ∈ (r.children.filter fun b => !l.children.any fun a => a.name == b.name) ↔
    b ∈ r.children ∧ l.child? b.name = none := by
  rw [List.mem_filter, child?, List.find?_eq_none]
  simp

theorem map_name_childParts : (childParts options depth l r).map (·.1) = l.children.map (·.name) ++
    (r.children.filter fun b => !l.children.any fun a => a.name == b.name).map (·.name) := by
  rw [childParts, List.map_append, map_name_diffChildren, onlyRightParts, List.map_map]
  rfl

/-- No name has two parts. -/
theorem nodup_name_childParts (hl : l.Distinct) (hr : r.Distinct) :
    ((childParts options depth l r).map (·.1)).Nodup := by
  rw [map_name_childParts, List.nodup_append]
  refine ⟨hl [] l (.here l), (List.filter_sublist.map _).nodup (hr [] r (.here r)), ?_⟩
  rintro name hname _ hname' rfl
  obtain ⟨b, hb, rfl⟩ := List.mem_map.mp hname'
  have hsome := child?_isSome_iff.mpr hname
  rw [(mem_onlyRight.mp hb).2] at hsome
  cases hsome

theorem mem_name_childParts :
    name ∈ childNames l r ↔ name ∈ (childParts options depth l r).map (·.1) := by
  rw [map_name_childParts, List.mem_append, mem_childNames]
  constructor
  · rintro (hname | hname)
    · exact .inl hname
    · obtain ⟨b, hb, rfl⟩ := List.mem_map.mp hname
      by_cases hnone : l.child? b.name = none
      · exact .inr (List.mem_map_of_mem (mem_onlyRight.mpr ⟨hb, hnone⟩))
      · exact .inl (child?_isSome_iff.mp (Option.isSome_iff_ne_none.mpr hnone))
  · exact Or.imp_right fun hname => (List.filter_sublist.map _).subset hname

/-- The part of a name is what is said of that name. -/
theorem snd_of_mem_childParts (hl : l.Distinct) (hr : r.Distinct)
    {p : String × List (DiffEntry Difference)} (hp : p ∈ childParts options depth l r) :
    p.2 = diffChild options depth l r p.1 := by
  rcases List.mem_append.mp hp with hp | hp
  · obtain ⟨a, ha, rfl⟩ := mem_diffChildren hp
    have hchild : l.child? a.name = some a := hl.child?_eq_some_iff.mpr ⟨ha, rfl⟩
    cases hright : r.child? a.name with
    | none => rw [diffChild_left hchild hright]
    | some b => rw [diffChild_both hchild hright]
  · obtain ⟨b, hb, rfl⟩ := List.mem_map.mp hp
    obtain ⟨hb, hnone⟩ := mem_onlyRight.mp hb
    rw [diffChild_right hnone (hr.child?_eq_some_iff.mpr ⟨hb, rfl⟩)]

end ChildParts

/-- The comparison of two nodes: their own entry, and for each name of a child what is said
of it. -/
theorem diffAt_eq (hl : l.Distinct) (hr : r.Distinct) : diffAt options depth l r =
    if options.ignores l.path || options.exceeds depth then []
    else options.compared l.path (l.differences r) ++
      (childNames l r).flatMap (diffChild options (depth + 1) l r) := by
  have hjoin : joinByName (childParts options (depth + 1) l r) =
      (childNames l r).flatMap (diffChild options (depth + 1) l r) :=
    joinByName_eq (nodup_name_childParts hl hr) (List.pairwise_map.mpr (Dictionary.ascending _))
      (fun _ => mem_name_childParts) fun _ hp => snd_of_mem_childParts hl hr hp
  rw [← hjoin]
  obtain ⟨⟩ := l
  rw [diffAt]
  rfl

/-! ## 4. The nodes at some names -/

/-- What a comparison says of the nodes at some names. A node of one side is an entry where the
names before the last one lead to a node of the other side. -/
def diffNames (options : DiffOptions) (l r : SchemaNode) (names : List String) :
    List (DiffEntry Difference) :=
  match l.descend? names, r.descend? names with
  | some a, some b => options.compared a.path (a.differences b)
  | some a, none => if (r.descend? names.dropLast).isSome then [.onlyLeft a.path] else []
  | none, some b => if (l.descend? names.dropLast).isSome then [.onlyRight b.path] else []
  | none, none => []

variable {a b : SchemaNode} {above rest names : List String} {e : DiffEntry Difference}

theorem diffNames_nil : diffNames options l r [] = options.compared l.path (l.differences r) := rfl

/-- Names that lead on in both grammars are looked at further down. -/
theorem diffNames_both (ha : l.child? name = some a) (hb : r.child? name = some b) :
    diffNames options l r (name :: rest) = diffNames options a b rest := by
  cases rest <;> simp [diffNames, descend?, ha, hb]

theorem diffNames_left (ha : l.child? name = some a) (hb : r.child? name = none) :
    diffNames options l r (name :: rest) = if rest = [] then [.onlyLeft a.path] else [] := by
  cases rest with
  | nil => simp [diffNames, descend?, ha, hb]
  | cons next more =>
    cases h : (a.child? next).bind fun child => child.descend? more <;>
      simp [diffNames, descend?, ha, hb, h]

theorem diffNames_right (ha : l.child? name = none) (hb : r.child? name = some b) :
    diffNames options l r (name :: rest) = if rest = [] then [.onlyRight b.path] else [] := by
  cases rest with
  | nil => simp [diffNames, descend?, ha, hb]
  | cons next more =>
    cases h : (b.child? next).bind fun child => child.descend? more <;>
      simp [diffNames, descend?, ha, hb, h]

theorem diffNames_neither (ha : l.child? name = none) (hb : r.child? name = none) :
    diffNames options l r (name :: rest) = [] := by
  simp [diffNames, descend?, ha, hb]

/-- Each entry is about nodes at some names. -/
theorem Laid.exists_mem_diffNames (hl : Laid above l) (hr : Laid above r)
    (h : e ∈ diffAt options depth l r) : ∃ names, e ∈ diffNames options l r names := by
  refine Laid.induction (motive := fun _ l r => ∀ depth, e ∈ diffAt options depth l r →
    ∃ names, e ∈ diffNames options l r names) ?_ hl hr depth h
  intro above l r hl hr ih depth h
  rw [diffAt_eq hl.distinct hr.distinct] at h
  split at h
  case isTrue => cases h
  case isFalse =>
    rcases List.mem_append.mp h with h | h
    · exact ⟨[], h⟩
    · obtain ⟨name, -, h⟩ := List.mem_flatMap.mp h
      unfold diffChild at h
      split at h
      case h_1 a b ha hb =>
        obtain ⟨names, h⟩ := ih name a b ha hb _ h
        exact ⟨name :: names, by rwa [diffNames_both ha hb]⟩
      case h_2 a ha hb =>
        refine ⟨[name], ?_⟩
        rw [diffNames_left ha hb, if_pos rfl]
        split at h
        · cases h
        · exact h
      case h_3 b ha hb =>
        refine ⟨[name], ?_⟩
        rw [diffNames_right ha hb, if_pos rfl]
        split at h
        · cases h
        · exact h
      case h_4 => cases h

/-- What is said of the nodes at some names is said of their path. -/
theorem Laid.path_of_mem_diffNames (hl : Laid above l) (hr : Laid above r)
    (h : e ∈ diffNames options l r names) :
    e.path = Text.join "/" (above ++ names) ∧ ∀ name ∈ above ++ names, Plain name := by
  unfold diffNames at h
  split at h
  case h_1 a b ha hb =>
    rw [hl.distinct.descend?_eq_some_iff] at ha
    exact ⟨(DiffOptions.path_of_mem_compared h).trans (hl.path_eq ha), hl.plain ha⟩
  case h_2 a ha hb =>
    rw [hl.distinct.descend?_eq_some_iff] at ha
    split at h
    · obtain rfl := List.mem_singleton.mp h
      exact ⟨hl.path_eq ha, hl.plain ha⟩
    · cases h
  case h_3 b ha hb =>
    rw [hr.distinct.descend?_eq_some_iff] at hb
    split at h
    · obtain rfl := List.mem_singleton.mp h
      exact ⟨hr.path_eq hb, hr.plain hb⟩
    · cases h
  case h_4 => cases h

/-! ## 5. Two grammars of one service -/

open Schema Listing

/-- A directory tree with one service, which has this text in its grammar file and these
subdirectories. -/
def oneService (text : String) (below : Listing) : Listing :=
  [("ssh", .directory ((grammarFile, .file text.toUTF8) :: below))]

/-- A disk on which such a tree stands under the name `templates`. -/
def oneServiceDisk (text : String) (below : Listing) : Disk :=
  .ofEntry (.directory [("templates", .directory (oneService text below))])

/-- The directory of a port. -/
def onePort : Listing := [("port", .directory [(grammarFile, .file "type: u32\n".toUTF8)])]

/-- The grammar of a service with a port. -/
def sshWithPort : SchemaNode :=
  let port : SchemaNode := { name := "port", path := "ssh/port", type := .u32 }
  let ssh : SchemaNode := { name := "ssh", path := "ssh", help := some "SSH", children := [port] }
  { name := "templates", path := "", children := [ssh] }

/-- The grammar of a service that may stand more than once. -/
def sshAlone : SchemaNode :=
  { name := "templates", path := "", children := [{ name := "ssh", path := "ssh", multi := true }] }

theorem readFromDisk_sshWithPort : sshWithPort.ReadFromDisk := by
  have hport : ∀ name inner, (name, Entry.directory inner) ∈ onePort →
      name = "port" ∧ inner = [(grammarFile, .file "type: u32\n".toUTF8)] := by
    simp [onePort]
  have hssh : ∀ name inner, (name, Entry.directory inner) ∈ oneService "help: SSH\n" onePort →
      name = "ssh" ∧ inner = (grammarFile, .file "help: SSH\n".toUTF8) :: onePort := by
    simp [oneService]
  have hlisted : (oneServiceDisk "help: SSH\n" onePort).readDirectory "templates" =
      .ok (oneService "help: SSH\n" onePort) := rfl
  refine .mk hlisted ?sound ?slashless ?read
  case sound =>
    refine sound_of_inner (by simp [oneService]) fun name inner hmem => ?_
    obtain ⟨rfl, rfl⟩ := hssh name inner hmem
    refine ⟨by decide, sound_of_inner (by decide) fun name inner hmem => ?_⟩
    obtain ⟨rfl, rfl⟩ := hport name inner (by simpa using hmem)
    exact ⟨by decide, sound_of_inner (by simp) (by simp)⟩
  case slashless =>
    refine slashless_of_inner fun name inner hmem => ?_
    obtain ⟨rfl, rfl⟩ := hssh name inner hmem
    refine ⟨by decide, slashless_of_inner fun name inner hmem => ?_⟩
    obtain ⟨rfl, rfl⟩ := hport name inner (by simpa using hmem)
    exact ⟨by decide, slashless_of_inner (by simp)⟩
  case read =>
    rw [ofDisk_eq rfl, reading]
    simp only [oneService, onePort, readBelow, readEntry, assemble, inNameOrder,
      List.mergeSort_singleton, List.mergeSort_nil]
    rfl

theorem readFromDisk_sshAlone : sshAlone.ReadFromDisk := by
  have hssh : ∀ name inner, (name, Entry.directory inner) ∈ oneService "multi:\n" [] →
      name = "ssh" ∧ inner = [(grammarFile, .file "multi:\n".toUTF8)] := by
    simp [oneService]
  have hlisted : (oneServiceDisk "multi:\n" []).readDirectory "templates" =
      .ok (oneService "multi:\n" []) := rfl
  refine .mk hlisted ?sound ?slashless ?read
  case sound =>
    refine sound_of_inner (by simp [oneService]) fun name inner hmem => ?_
    obtain ⟨rfl, rfl⟩ := hssh name inner hmem
    exact ⟨by decide, sound_of_inner (by simp) (by simp)⟩
  case slashless =>
    refine slashless_of_inner fun name inner hmem => ?_
    obtain ⟨rfl, rfl⟩ := hssh name inner hmem
    exact ⟨by decide, slashless_of_inner (by simp)⟩
  case read =>
    rw [ofDisk_eq rfl, reading]
    simp only [oneService, readBelow, readEntry, assemble, inNameOrder,
      List.mergeSort_singleton, List.mergeSort_nil]
    rfl

/-- The port that one side lacks is one entry, and what differs in the services another. -/
theorem diff_ssh (includeIdentical : Bool) :
    diff { includeIdentical := includeIdentical } sshWithPort sshAlone =
      (if includeIdentical then [.identical ""] else []) ++
        [.modified "ssh" [⟨"multi", "false", "true"⟩], .onlyLeft "ssh/port"] := by
  cases includeIdentical <;> decide +kernel

end SchemaNode

end RouterConfig
