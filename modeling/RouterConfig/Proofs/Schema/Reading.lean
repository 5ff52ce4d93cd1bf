/-
RouterConfig.Proofs.Schema.Reading — what is read from one directory.

Where every grammar file is a text, a directory gives a node or nothing
(`reading_ok`): a node exactly if it is the root or something in it is
worth keeping, with the attributes of its own file and the nodes of the
directories below it as children (`Reads`). Where a file is no text the
reading ends with the first such file (`reading_unreadable`): directories
are visited before those below them and siblings by their names. The order
in which the entries of a directory are listed does not matter anywhere.
-/
import RouterConfig.Dictionary
import RouterConfig.Proofs.Schema.Folders

namespace RouterConfig.Schema

open Listing

variable {entries inner : Listing} {name place path : String} {names : List String}

/-! ## 1. The grammar file of a directory -/

/-- A node of which nothing is said. -/
abbrev fresh (name path : String) : SchemaNode := { name, path }

/-- The node with what the grammar file of a directory says, and how many scopes say something; a
file that is no text says nothing. -/
def own (node : SchemaNode) (entries : Listing) : SchemaNode × Nat :=
  match Entry.named? grammarFile entries with
  | some (.file content) =>
    match String.fromUTF8? content with
    | some text => applyText node text
    | none => (node, 0)
  | _ => (node, 0)

theorem own_of_text {node : SchemaNode} (h : Sound entries) {content : ByteArray} {text : String}
    (hfile : (grammarFile, .file content) ∈ entries)
    (htext : String.fromUTF8? content = some text) : own node entries = applyText node text := by
  rw [own, h.named?_eq_some_iff.mpr hfile]
  simp only [htext]

theorem own_of_none {node : SchemaNode} (h : Sound entries)
    (hfile : ∀ content text, (grammarFile, .file content) ∈ entries →
      String.fromUTF8? content ≠ some text) : own node entries = (node, 0) := by
  rw [own]
  split
  case h_1 content hnamed =>
    cases htext : String.fromUTF8? content with
    | none => rfl
    | some text => exact absurd htext (hfile content text (h.named?_eq_some_iff.mp hnamed))
  case h_2 => rfl

/-- What a directory says of a node leaves its name, its path and its children. -/
theorem own_keeps (node : SchemaNode) (h : Sound entries) : (own node entries).1.name = node.name ∧
    (own node entries).1.path = node.path ∧ (own node entries).1.children = node.children := by
  by_cases hfile : ∃ content text, (grammarFile, .file content) ∈ entries ∧
      String.fromUTF8? content = some text
  · obtain ⟨content, text, hmem, htext⟩ := hfile
    rw [own_of_text h hmem htext]
    exact applyScopes_keeps node _
  · rw [own_of_none h fun content text hmem htext => hfile ⟨content, text, hmem, htext⟩]
    exact ⟨rfl, rfl, rfl⟩

theorem own_pos {node : SchemaNode} (h : Sound entries) :
    0 < (own node entries).2 ↔ Speaks entries := by
  constructor
  · intro hpos
    by_cases hfile : ∃ content text, (grammarFile, .file content) ∈ entries ∧
        String.fromUTF8? content = some text
    · obtain ⟨content, text, hmem, htext⟩ := hfile
      rw [own_of_text h hmem htext] at hpos
      exact (h.speaks_iff hmem htext).mpr (applyScopes_pos.mp hpos)
    · rw [own_of_none h fun content text hmem htext => hfile ⟨content, text, hmem, htext⟩] at hpos
      exact absurd hpos (by simp)
  · rintro ⟨content, text, hmem, htext, hscope⟩
    rw [own_of_text h hmem htext]
    exact applyScopes_pos.mpr hscope

/-- A grammar file that is a text is read. -/
theorem readOwn_of_readable {node : SchemaNode} (h : Sound entries)
    (hread : ¬ Unreadable entries []) : readOwn place node entries = .ok (own node entries) := by
  cases hnamed : Entry.named? grammarFile entries with
  | none => simp only [readOwn, own, hnamed]
  | some entry =>
    cases entry with
    | directory inner => simp only [readOwn, own, hnamed]
    | file content =>
      cases htext : String.fromUTF8? content with
      | none =>
        have hmem := h.named?_eq_some_iff.mp hnamed
        exact absurd (unreadable_nil.mpr ⟨content, hmem, htext⟩) hread
      | some text => simp only [readOwn, own, hnamed, Entry.text?, htext]

theorem readOwn_of_unreadable {node : SchemaNode} (h : Sound entries)
    (hread : Unreadable entries []) : readOwn place node entries
      = .error (.file (FilePath.join place grammarFile) .notText) := by
  obtain ⟨content, hmem, htext⟩ := unreadable_nil.mp hread
  rw [readOwn, h.named?_eq_some_iff.mpr hmem]
  simp only [Entry.text?, htext]

/-! ## 2. The directories below -/

/-- The reading of the directory with these entries, which stands at `place` and is the node at
`path`. -/
def reading (isRoot : Bool) (place name path : String) (entries : Listing) : Reading :=
  assemble isRoot (readOwn place (fresh name path) entries) (readBelow place path entries)

/-- The reading of a subdirectory. -/
def readingBelow (place path name : String) (inner : Listing) : Reading :=
  reading false (FilePath.join place name) name (childPath path name) inner

theorem mem_readBelow {r : String × Reading} : r ∈ readBelow place path entries ↔
    ∃ name inner, (name, .directory inner) ∈ entries ∧
      r = (name, readingBelow place path name inner) := by
  induction entries with
  | nil => simp [readBelow]
  | cons e rest ih =>
    obtain ⟨name, entry⟩ := e
    cases entry with
    | file content => simp [readBelow, readEntry, ih]
    | directory inner =>
      rw [readBelow, readEntry]
      simp only [List.mem_cons, ih, Prod.mk.injEq, Entry.directory.injEq]
      constructor
      · rintro (rfl | ⟨name', inner', hmem, rfl⟩)
        · exact ⟨name, inner, .inl ⟨rfl, rfl⟩, rfl⟩
        · exact ⟨name', inner', .inr hmem, rfl⟩
      · rintro ⟨name', inner', ⟨rfl, rfl⟩ | hmem, rfl⟩
        · exact .inl rfl
        · exact .inr ⟨name', inner', hmem, rfl⟩

theorem mem_inNameOrder {r : String × Reading} :
    r ∈ inNameOrder (readBelow place path entries) ↔
      ∃ name inner, (name, .directory inner) ∈ entries ∧
        r = (name, readingBelow place path name inner) := by
  rw [inNameOrder, List.mem_mergeSort, mem_readBelow]

theorem nodup_readBelow (h : Sound entries) : ((readBelow place path entries).map (·.1)).Nodup := by
  refine List.Sublist.nodup ?_ (h.distinct (.here entries))
  clear h
  induction entries with
  | nil => exact List.Sublist.refl _
  | cons e rest ih =>
    obtain ⟨name, entry⟩ := e
    cases entry with
    | file content => exact ih.cons _
    | directory inner => exact ih.cons_cons _

theorem nodup_inNameOrder (h : Sound entries) :
    ((inNameOrder (readBelow place path entries)).map (·.1)).Nodup :=
  (((List.mergeSort_perm _ _).map _).nodup_iff).mpr (nodup_readBelow h)

/-- The readings come in the order of the names, each name once. -/
theorem ascending_inNameOrder (h : Sound entries) :
    (inNameOrder (readBelow place path entries)).Pairwise fun a b => a.1 < b.1 := by
  have hnodup := @nodup_inNameOrder entries place path h
  have hsorted : (inNameOrder (readBelow place path entries)).Pairwise fun a b =>
      decide (a.1 ≤ b.1) = true := by
    refine List.pairwise_mergeSort ?_ ?_ _
    · intro a b c hab hbc
      exact decide_eq_true (String.le_trans (of_decide_eq_true hab) (of_decide_eq_true hbc))
    · intro a b
      rcases String.le_total a.1 b.1 with hle | hle <;> simp [hle]
  rw [List.Nodup, List.pairwise_map] at hnodup
  refine hsorted.imp₂ ?_ hnodup
  intro a b hle hne
  exact Dictionary.lt_of_not_lt_of_ne (String.not_lt.mpr (of_decide_eq_true hle)) hne

/-- Where nothing fails, what is kept of several readings is what each of them gives. -/
theorem keptNodes_of_ok {readings : List (String × Reading)}
    (hok : ∀ r ∈ readings, ∃ node, r.2 = .ok node)
    (hnamed : ∀ r ∈ readings, ∀ child, r.2 = .ok (some child) → child.name = r.1) :
    ∃ nodes, keptNodes readings = .ok nodes ∧
      (∀ child, child ∈ nodes ↔ ∃ r ∈ readings, r.2 = .ok (some child)) ∧
      (nodes.map (·.name)).Sublist (readings.map (·.1)) := by
  induction readings with
  | nil => exact ⟨[], rfl, by simp, List.Sublist.refl _⟩
  | cons r rest ih =>
    obtain ⟨name, result⟩ := r
    rw [List.forall_mem_cons] at hok hnamed
    obtain ⟨⟨node, rfl⟩, hok⟩ := hok
    obtain ⟨nodes, hkept, hmem, hsub⟩ := ih hok hnamed.2
    refine ⟨node.toList ++ nodes, ?_, ?_, ?_⟩
    · rw [keptNodes, hkept]
      rfl
    · intro child
      rw [List.mem_append, hmem, List.exists_mem_cons_iff, Option.mem_toList]
      simp
    · cases node with
      | none => exact hsub.cons _
      | some child =>
        rw [Option.toList_some, List.singleton_append, List.map_cons, List.map_cons,
          hnamed.1 child rfl]
        exact hsub.cons_cons _

/-- Of several readings in the order of their names the first that fails counts. -/
theorem keptNodes_of_error {readings : List (String × Reading)}
    (hascending : readings.Pairwise fun a b => a.1 < b.1)
    (hfail : ∃ r ∈ readings, ∃ error, r.2 = .error error) :
    ∃ r ∈ readings, ∃ error, r.2 = .error error ∧ keptNodes readings = .error error ∧
      ∀ other ∈ readings, (∃ error, other.2 = .error error) → r = other ∨ r.1 < other.1 := by
  induction readings with
  | nil => simp at hfail
  | cons r rest ih =>
    obtain ⟨name, result⟩ := r
    obtain ⟨hlt, hrest⟩ := List.pairwise_cons.mp hascending
    cases result with
    | error error =>
      refine ⟨_, List.mem_cons_self, error, rfl, rfl, ?_⟩
      intro other hmem _
      rcases List.mem_cons.mp hmem with rfl | hmem
      · exact .inl rfl
      · exact .inr (hlt other hmem)
    | ok node =>
      have hok : ¬ ∃ error, (.ok node : Reading) = .error error := by
        rintro ⟨error, heq⟩
        cases heq
      rw [List.exists_mem_cons_iff, or_iff_right hok] at hfail
      obtain ⟨first, hmem, error, herror, hkept, hfirst⟩ := ih hrest hfail
      refine ⟨first, List.mem_cons_of_mem _ hmem, error, herror, ?_, ?_⟩
      · rw [keptNodes, hkept]
        rfl
      · rw [List.forall_mem_cons]
        exact ⟨fun hfails => absurd hfails hok, hfirst⟩

/-! ## 3. Every grammar file is a text -/

/-- The reading does not fail, and gives a node exactly if there is something to keep. -/
structure Gives (reading : Reading) (keep : Prop) (good : SchemaNode → Prop) : Prop where
  ok : ∃ kept, reading = .ok kept
  node_iff : (∃ node, reading = .ok (some node)) ↔ keep
  good : ∀ node, reading = .ok (some node) → good node

/-- The node of the directory with these entries, which stands at `place` and is the node
at `path`. -/
structure Reads (place path : String) (entries : Listing) (node : SchemaNode) : Prop where
  attributes : node.bare = (own (fresh node.name node.path) entries).1
  path_eq : node.path = path
  mem_children : ∀ child, child ∈ node.children ↔ ∃ name inner,
    (name, .directory inner) ∈ entries ∧ readingBelow place path name inner = .ok (some child)
  distinct : (node.children.map (·.name)).Nodup

/-- The nodes of the directories below, when none of their readings fails. -/
theorem children_ok (h : Sound entries)
    (hbelow : ∀ name inner, (name, .directory inner) ∈ entries →
      Gives (readingBelow place path name inner) (Worth inner) (·.name = name)) :
    ∃ nodes, keptNodes (inNameOrder (readBelow place path entries)) = .ok nodes ∧
      (∀ child, child ∈ nodes ↔ ∃ name inner, (name, .directory inner) ∈ entries ∧
        readingBelow place path name inner = .ok (some child)) ∧
      (nodes.map (·.name)).Nodup := by
  have hok : ∀ r ∈ inNameOrder (readBelow place path entries), ∃ node, r.2 = .ok node := by
    intro r hr
    obtain ⟨name, inner, hinner, rfl⟩ := mem_inNameOrder.mp hr
    exact (hbelow name inner hinner).ok
  have hnamed : ∀ r ∈ inNameOrder (readBelow place path entries), ∀ child,
      r.2 = .ok (some child) → child.name = r.1 := by
    intro r hr child hchild
    obtain ⟨name, inner, hinner, rfl⟩ := mem_inNameOrder.mp hr
    exact (hbelow name inner hinner).good child hchild
  obtain ⟨nodes, hnodes, hchildren, hsub⟩ := keptNodes_of_ok hok hnamed
  refine ⟨nodes, hnodes, ?_, ?_⟩
  · intro child
    rw [hchildren]
    constructor
    · rintro ⟨r, hr, hchild⟩
      obtain ⟨name, inner, hinner, rfl⟩ := mem_inNameOrder.mp hr
      exact ⟨name, inner, hinner, hchild⟩
    · rintro ⟨name, inner, hinner, hchild⟩
      exact ⟨_, mem_inNameOrder.mpr ⟨name, inner, hinner, rfl⟩, hchild⟩
  · exact hsub.nodup (nodup_inNameOrder h)

/-- A directory with nothing unreadable gives a node exactly if it is the root or something in it is
worth keeping. -/
theorem reading_ok (h : Sound entries) (hread : ∀ names, ¬ Unreadable entries names)
    (isRoot : Bool) (place name path : String) :
    Gives (reading isRoot place name path entries) (isRoot = true ∨ Worth entries)
      fun node => node.name = name ∧ Reads place path entries node := by
  induction entries using Listing.induction generalizing isRoot place name path with
  | step entries ih =>
    have hbelow : ∀ name inner, (name, .directory inner) ∈ entries →
        Gives (readingBelow place path name inner) (Worth inner) (·.name = name) := by
      intro name inner hmem
      have hinner : ∀ names, ¬ Unreadable inner names := fun names hun =>
        hread (name :: names) (unreadable_cons.mpr ⟨inner, hmem, hun⟩)
      obtain ⟨hok, hnode, hgood⟩ := ih name inner hmem (h.descend hmem) hinner false
        (FilePath.join place name) name (childPath path name)
      rw [or_iff_right Bool.false_ne_true] at hnode
      exact ⟨hok, hnode, fun node hnode => (hgood node hnode).1⟩
    obtain ⟨nodes, hnodes, hchild, hnodup⟩ := children_ok h hbelow
    have hnonempty : nodes.isEmpty = false ↔
        ∃ name inner, (name, .directory inner) ∈ entries ∧ Worth inner := by
      rw [List.isEmpty_eq_false_iff_exists_mem]
      simp only [hchild]
      constructor
      · rintro ⟨child, name, inner, hmem, hread⟩
        exact ⟨name, inner, hmem, (hbelow name inner hmem).node_iff.mp ⟨child, hread⟩⟩
      · rintro ⟨name, inner, hmem, hworth⟩
        obtain ⟨child, hread⟩ := (hbelow name inner hmem).node_iff.mpr hworth
        exact ⟨child, name, inner, hmem, hread⟩
    obtain ⟨hname, hpath, hfresh⟩ := own_keeps (fresh name path) h
    have hkeep : (isRoot || decide ((own (fresh name path) entries).2 > 0) || !nodes.isEmpty) = true ↔
        isRoot = true ∨ Worth entries := by
      rw [worth_iff, ← @own_pos entries (fresh name path) h, ← hnonempty]
      simp [or_assoc]
    have hreading : reading isRoot place name path entries =
        .ok (if isRoot || decide ((own (fresh name path) entries).2 > 0) || !nodes.isEmpty then
          some { (own (fresh name path) entries).1 with children := nodes } else none) := by
      rw [reading, readOwn_of_readable h (hread []), assemble, hnodes]
      rfl
    rw [hreading]
    refine ⟨⟨_, rfl⟩, ?_, ?_⟩
    · simp only [Except.ok.injEq, ← hkeep]
      simp
    · intro node hnode
      obtain ⟨-, heq⟩ := Option.ite_none_right_eq_some.mp (Except.ok.inj hnode)
      obtain rfl := Option.some.inj heq
      refine ⟨hname, ?_, hpath, hchild, hnodup⟩
      have hown : (own (fresh name path) entries).1.bare =
          (own (fresh (own (fresh name path) entries).1.name (own (fresh name path) entries).1.path)
            entries).1 := by
        rw [SchemaNode.bare_eq_self hfresh, hname, hpath]
      exact hown

/-! ## 4. A grammar file is no text -/

/-- The error of an unreadable grammar file in the directory at these names from `place`. -/
def notText (place : String) (names : List String) : ReadError :=
  .file (FilePath.join (names.foldl FilePath.join place) grammarFile) .notText

/-- The reading fails at the first unreadable file of the directory. -/
theorem reading_unreadable (h : Sound entries) (hread : ∃ names, Unreadable entries names)
    (isRoot : Bool) (place name path : String) :
    ∃ first, Unreadable entries first ∧ (∀ names, Unreadable entries names → NoLater first names) ∧
      reading isRoot place name path entries = .error (notText place first) := by
  induction entries using Listing.induction generalizing isRoot place name path with
  | step entries ih =>
    by_cases hown : Unreadable entries []
    · refine ⟨[], hown, fun names _ => .above names, ?_⟩
      rw [reading, readOwn_of_unreadable h hown]
      rfl
    have hbelow : ∀ {name inner}, (name, .directory inner) ∈ entries →
        ((∃ error, readingBelow place path name inner = .error error) ↔
          ∃ names, Unreadable inner names) := by
      intro name inner hmem
      constructor
      · rintro ⟨error, herror⟩
        by_contra hnone
        obtain ⟨kept, hkept⟩ := (reading_ok (h.descend hmem) (fun names hun => hnone ⟨names, hun⟩)
          false (FilePath.join place name) name (childPath path name)).ok
        cases hkept.symm.trans herror
      · intro hinner
        obtain ⟨first, -, -, herror⟩ := ih name inner hmem (h.descend hmem) hinner false
          (FilePath.join place name) name (childPath path name)
        exact ⟨_, herror⟩
    have hfail : ∃ r ∈ inNameOrder (readBelow place path entries), ∃ error,
        r.2 = .error error := by
      obtain ⟨names, hun⟩ := hread
      cases names with
      | nil => exact absurd hun hown
      | cons name rest =>
        obtain ⟨inner, hinner, hun⟩ := unreadable_cons.mp hun
        exact ⟨_, mem_inNameOrder.mpr ⟨name, inner, hinner, rfl⟩, (hbelow hinner).mpr ⟨rest, hun⟩⟩
    obtain ⟨r, hr, error, herror, hkept, hfirst⟩ :=
      keptNodes_of_error (ascending_inNameOrder h) hfail
    obtain ⟨sub, inner, hinner, rfl⟩ := mem_inNameOrder.mp hr
    obtain ⟨first, hun, hleast, hsub⟩ := ih sub inner hinner (h.descend hinner)
      ((hbelow hinner).mp ⟨error, herror⟩) false (FilePath.join place sub) sub (childPath path sub)
    refine ⟨sub :: first, unreadable_cons.mpr ⟨inner, hinner, hun⟩, ?_, ?_⟩
    · intro names hnames
      cases names with
      | nil => exact absurd hnames hown
      | cons other rest =>
        obtain ⟨inner', hinner', hrest⟩ := unreadable_cons.mp hnames
        have hother : (other, readingBelow place path other inner') ∈
            inNameOrder (readBelow place path entries) :=
          mem_inNameOrder.mpr ⟨other, inner', hinner', rfl⟩
        rcases hfirst _ hother ((hbelow hinner').mpr ⟨rest, hrest⟩) with heq | hlt
        · obtain rfl : sub = other := congrArg Prod.fst heq
          obtain rfl := Entry.directory.inj (h.eq_of_mem hinner hinner')
          exact .inside sub (hleast rest hrest)
        · exact .sibling hlt first rest
    · obtain rfl : notText (FilePath.join place sub) first = error :=
        Except.error.inj (hsub.symm.trans herror)
      rw [reading, readOwn_of_readable h hown, assemble, hkept]
      rfl

end RouterConfig.Schema
