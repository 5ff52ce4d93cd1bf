/-
RouterConfig.Proofs.Schema.Mirror — the grammar that is read from a
directory tree, as a whole.

`ofDisk_mirrors`: in whatever order the directories are listed, the grammar
`Mirrors` the tree when every grammar file is a text. It has a node for each
directory that is kept, under the names of that directory and with what its
grammar file says; a look-up finds each node; and there are as many nodes as
directories that are kept. Otherwise the first file that is no text is
reported.

## How the proof goes

What is known of one directory (`Reads`, of `Schema.Reading`) is carried
down the names that lead into the tree: the node at some names is that of
the directory at them (`Reads.leads`), and there is a node at the names of
the directories that are kept, and at no others (`Reads.exists_leads_iff`).
As no directory has two entries of one name, no node has two children of one
name (`Reads.nodeDistinct`), so names lead to one node at most, look-ups
find it, and nodes can be counted by their names. The error comes from
`reading_unreadable`, which goes through the directories as the program does.

## Side conditions

`Listing.Sound` is what a file system grants: no directory holds two entries
of one name, and every directory has a name. A directory is kept when it is
the root, or when it or one below it has a grammar file of which a scope
says something (`Listing.Speaks`); `Sound.speaks_iff_of_blocks` tells that
by the blocks that the file is written with. Directories that cannot be
listed and links are not in a `Listing`.
-/
import RouterConfig.Proofs.Path.Key
import RouterConfig.Proofs.Schema.Reading

namespace RouterConfig.Schema

open Listing

/-! ## 1. Paths of nodes -/

theorem join_ne_empty {names : List String} (hne : names ≠ [])
    (hnames : ∀ name ∈ names, name ≠ "") : Text.join "/" names ≠ "" := by
  cases names with
  | nil => exact absurd rfl hne
  | cons name rest =>
    have hname : name ≠ "" := hnames name List.mem_cons_self
    cases rest with
    | nil => exact hname
    | cons next more => simp [Text.join_cons_cons, hname]

/-- The path of the node at some names joins the names. -/
theorem foldl_childPath {names : List String} (hnames : ∀ name ∈ names, name ≠ "") :
    names.foldl childPath "" = Text.join "/" names := by
  induction names using List.reverseRecOn with
  | nil => rfl
  | append_singleton above name ih =>
    rw [List.forall_mem_append] at hnames
    rw [List.foldl_concat, ih hnames.1, childPath]
    cases above with
    | nil => rfl
    | cons first rest =>
      have hempty : (Text.join "/" (first :: rest)).isEmpty = false := by
        simpa using join_ne_empty (List.cons_ne_nil first rest) hnames.1
      rw [hempty, Text.join_concat "/" name _ (List.cons_ne_nil first rest)]
      rfl

/-! ## 2. From one directory to those below it -/

section Below

variable {entries inner : Listing} {place path name : String} {names : List String}
  {node child target : SchemaNode}

/-- Each child is the node of a subdirectory of its name, in which something is worth keeping. -/
theorem Reads.below (hreads : Reads place path entries node) (h : Sound entries)
    (hread : ∀ names, ¬ Unreadable entries names) (hmem : child ∈ node.children) :
    ∃ inner, (child.name, .directory inner) ∈ entries ∧ Worth inner ∧
      Reads (FilePath.join place child.name) (childPath path child.name) inner child := by
  obtain ⟨name, inner, hinner, hchild⟩ := (hreads.mem_children child).mp hmem
  obtain ⟨-, hnode, hgood⟩ := reading_ok (h.descend hinner)
    (fun names hun => hread (name :: names) (unreadable_cons.mpr ⟨inner, hinner, hun⟩)) false
    (FilePath.join place name) name (childPath path name)
  obtain ⟨rfl, hreads'⟩ := hgood child hchild
  rw [or_iff_right Bool.false_ne_true] at hnode
  exact ⟨inner, hinner, hnode.mp ⟨child, hchild⟩, hreads'⟩

/-- Each subdirectory in which something is worth keeping has its node among the children. -/
theorem Reads.exists_child (hreads : Reads place path entries node) (h : Sound entries)
    (hread : ∀ names, ¬ Unreadable entries names) (hinner : (name, .directory inner) ∈ entries)
    (hworth : Worth inner) : ∃ child ∈ node.children, child.name = name := by
  obtain ⟨-, hnode, hgood⟩ := reading_ok (h.descend hinner)
    (fun names hun => hread (name :: names) (unreadable_cons.mpr ⟨inner, hinner, hun⟩)) false
    (FilePath.join place name) name (childPath path name)
  obtain ⟨child, hchild⟩ := hnode.mpr (.inr hworth)
  exact ⟨child, (hreads.mem_children child).mpr ⟨name, inner, hinner, hchild⟩,
    (hgood child hchild).1⟩

/-- The node at some names is that of the directory at them. -/
theorem Reads.leads (hreads : Reads place path entries node) (h : Sound entries)
    (hread : ∀ names, ¬ Unreadable entries names) (hleads : node.Leads names target) :
    ∃ inner, Leads entries names inner ∧
      Reads (names.foldl FilePath.join place) (names.foldl childPath path) inner target := by
  induction hleads generalizing entries place path with
  | here => exact ⟨entries, .here entries, hreads⟩
  | step hmem _ ih =>
    obtain ⟨inner, hinner, -, hchild⟩ := hreads.below h hread hmem
    obtain ⟨last, hlast, htarget⟩ := ih hchild (h.descend hinner) fun names hun =>
      hread _ (unreadable_cons.mpr ⟨inner, hinner, hun⟩)
    exact ⟨last, .step hinner hlast, htarget⟩

/-- There is a node at the names of the directories that are kept, and at no others. -/
theorem Reads.exists_leads_iff (hreads : Reads place path entries node) (h : Sound entries)
    (hread : ∀ names, ¬ Unreadable entries names) :
    (∃ target, node.Leads names target) ↔ Kept entries names := by
  induction names generalizing entries place path node with
  | nil => exact iff_of_true ⟨node, .here node⟩ (.inl rfl)
  | cons name rest ih =>
    rw [kept_cons]
    constructor
    · rintro ⟨target, hleads⟩
      obtain ⟨child, hmem, rfl, hrest⟩ := SchemaNode.leads_cons.mp hleads
      obtain ⟨inner, hinner, hworth, hchild⟩ := hreads.below h hread hmem
      refine ⟨inner, hinner, hworth, (ih hchild (h.descend hinner) ?_).mp ⟨target, hrest⟩⟩
      exact fun names hun => hread _ (unreadable_cons.mpr ⟨inner, hinner, hun⟩)
    · rintro ⟨inner, hinner, hworth, hkept⟩
      obtain ⟨child, hmem, rfl⟩ := hreads.exists_child h hread hinner hworth
      obtain ⟨inner', hinner', -, hchild⟩ := hreads.below h hread hmem
      obtain rfl := Entry.directory.inj (h.eq_of_mem hinner hinner')
      obtain ⟨target, hrest⟩ := (ih hchild (h.descend hinner) fun names hun =>
        hread _ (unreadable_cons.mpr ⟨inner, hinner, hun⟩)).mpr hkept
      exact ⟨target, .step hmem hrest⟩

theorem Reads.nodeDistinct (hreads : Reads place path entries node) (h : Sound entries)
    (hread : ∀ names, ¬ Unreadable entries names) : node.Distinct := by
  intro names target hleads
  obtain ⟨inner, -, htarget⟩ := hreads.leads h hread hleads
  exact htarget.distinct

end Below

/-! ## 3. The whole tree -/

/-- The grammar has the nodes of a directory tree. -/
structure Mirrors (entries : Listing) (schema : SchemaNode) : Prop where
  /-- There is a node at the names of each directory that is kept, and nowhere else. -/
  node_iff : ∀ names, (∃ node, schema.Leads names node) ↔ Kept entries names
  /-- The path of a node joins the names that lead to it, the last of which is its name. -/
  path_eq : ∀ {names node}, schema.Leads names node → node.path = Text.join "/" names
  name_eq : ∀ {names name node}, schema.Leads (names ++ [name]) node → node.name = name
  /-- A node has the attributes that its own grammar file gives, or none at all. -/
  attributes : ∀ {names node inner content text}, schema.Leads names node →
    Leads entries names inner → (grammarFile, .file content) ∈ inner →
    String.fromUTF8? content = some text →
    node.bare = (applyText (fresh node.name node.path) text).1
  no_attributes : ∀ {names node inner}, schema.Leads names node → Leads entries names inner →
    (∀ content, (grammarFile, .file content) ∉ inner) → node.bare = fresh node.name node.path
  /-- A look-up finds the node at the names. -/
  find_iff : ∀ {names node}, names ≠ [] →
    (schema.find? names = some node ↔ schema.Leads names node)
  count_eq : schema.count = {names | Kept entries names}.ncard

theorem Reads.mirrors {entries : Listing} {place : String} {schema : SchemaNode}
    (hreads : Reads place "" entries schema) (h : Sound entries)
    (hread : ∀ names, ¬ Unreadable entries names) : Mirrors entries schema where
  node_iff names := hreads.exists_leads_iff h hread
  path_eq {names node} hleads := by
    obtain ⟨inner, hinner, hnode⟩ := hreads.leads h hread hleads
    rw [hnode.path_eq, foldl_childPath (h.ne_empty hinner)]
  name_eq hleads := hleads.name_eq
  attributes {names node inner content text} hleads hinner hfile htext := by
    obtain ⟨inner', hinner', hnode⟩ := hreads.leads h hread hleads
    obtain rfl := h.unique hinner hinner'
    rw [hnode.attributes, own_of_text (h.leads hinner) hfile htext]
  no_attributes {names node inner} hleads hinner hfile := by
    obtain ⟨inner', hinner', hnode⟩ := hreads.leads h hread hleads
    obtain rfl := h.unique hinner hinner'
    rw [hnode.attributes, own_of_none (h.leads hinner) fun content _ hmem => absurd hmem (hfile content)]
  find_iff hne := (hreads.nodeDistinct h hread).find?_eq_some_iff hne
  count_eq := by
    rw [(hreads.nodeDistinct h hread).count_eq_ncard]
    exact congrArg Set.ncard (Set.ext fun names => hreads.exists_leads_iff h hread)

/-- Below the root path as well, names lead where the look-up goes. -/
theorem Mirrors.descend?_iff {entries : Listing} {schema node : SchemaNode}
    (h : Mirrors entries schema) {names : List String} :
    schema.descend? names = some node ↔ schema.Leads names node := by
  cases names with
  | nil => simp [SchemaNode.descend?, eq_comm]
  | cons name rest =>
    have hne : name :: rest ≠ [] := List.cons_ne_nil name rest
    rw [← h.find_iff hne, SchemaNode.find?, if_neg (by simp)]

section Disk

variable {disk : Disk} {place : String} {entries : Listing}

theorem ofDisk_eq (hdisk : disk.readDirectory place = .ok entries) :
    ofDisk disk place = (reading true place (FilePath.baseName place) "" entries).map
      (·.getD (fresh (FilePath.baseName place) "")) := by
  rw [ofDisk, hdisk]
  rfl

theorem exists_reads (hdisk : disk.readDirectory place = .ok entries) (h : Sound entries)
    (hread : ∀ names, ¬ Unreadable entries names) :
    ∃ schema, ofDisk disk place = .ok schema ∧ Reads place "" entries schema := by
  obtain ⟨-, hnode, hgood⟩ := reading_ok h hread true place (FilePath.baseName place) ""
  obtain ⟨schema, hschema⟩ := hnode.mpr (.inl rfl)
  refine ⟨schema, ?_, (hgood schema hschema).2⟩
  rw [ofDisk_eq hdisk, hschema]
  rfl

theorem ofDisk_of_readable (hdisk : disk.readDirectory place = .ok entries) (h : Sound entries)
    (hread : ∀ names, ¬ Unreadable entries names) :
    ∃ schema, ofDisk disk place = .ok schema ∧ Mirrors entries schema := by
  obtain ⟨schema, hschema, hreads⟩ := exists_reads hdisk h hread
  exact ⟨schema, hschema, hreads.mirrors h hread⟩

theorem ofDisk_of_unreadable (hdisk : disk.readDirectory place = .ok entries) (h : Sound entries)
    (hread : ∃ names, Unreadable entries names) :
    ∃ first, Unreadable entries first ∧ (∀ names, Unreadable entries names → NoLater first names) ∧
      ofDisk disk place = .error
        (.file (FilePath.join (first.foldl FilePath.join place) grammarFile) .notText) := by
  obtain ⟨first, hun, hleast, herror⟩ :=
    reading_unreadable h hread true place (FilePath.baseName place) ""
  refine ⟨first, hun, hleast, ?_⟩
  rw [ofDisk_eq hdisk, herror]
  rfl

/-- A grammar was read from a tree in which every grammar file is a text. -/
theorem reads_of_ofDisk (hdisk : disk.readDirectory place = .ok entries) (h : Sound entries)
    {schema : SchemaNode} (hschema : ofDisk disk place = .ok schema) :
    (∀ names, ¬ Unreadable entries names) ∧ Reads place "" entries schema := by
  by_cases hread : ∃ names, Unreadable entries names
  · obtain ⟨first, -, -, herror⟩ := ofDisk_of_unreadable hdisk h hread
    cases hschema.symm.trans herror
  · have hread' : ∀ names, ¬ Unreadable entries names := fun names hun => hread ⟨names, hun⟩
    obtain ⟨schema', hschema', hreads⟩ := exists_reads hdisk h hread'
    obtain rfl := Except.ok.inj (hschema.symm.trans hschema')
    exact ⟨hread', hreads⟩

/-- A grammar that was read mirrors the tree that it was read from. -/
theorem mirrors_of_ofDisk (hdisk : disk.readDirectory place = .ok entries) (h : Sound entries)
    {schema : SchemaNode} (hschema : ofDisk disk place = .ok schema) : Mirrors entries schema := by
  obtain ⟨hread, hreads⟩ := reads_of_ofDisk hdisk h hschema
  exact hreads.mirrors h hread

/-- **What is read from a directory tree.** In whatever order the directories are listed, the
grammar mirrors the tree when every grammar file is a text, and otherwise the first file that is
none is reported. -/
theorem ofDisk_mirrors (hdisk : disk.readDirectory place = .ok entries) (h : Sound entries) :
    ((∀ names, ¬ Unreadable entries names) →
      ∃ schema, ofDisk disk place = .ok schema ∧ Mirrors entries schema) ∧
    ((∃ names, Unreadable entries names) →
      ∃ first, Unreadable entries first ∧
        (∀ names, Unreadable entries names → NoLater first names) ∧
        ofDisk disk place = .error
          (.file (FilePath.join (first.foldl FilePath.join place) grammarFile) .notText)) :=
  ⟨ofDisk_of_readable hdisk h, ofDisk_of_unreadable hdisk h⟩

end Disk

/-- A tree whose directories are listed against the order of their names, with these bytes in its
grammar files, and with a directory that has none. -/
def twoServices (bytes : ByteArray) : Listing :=
  [("ssh", .directory [(grammarFile, .file bytes)]), ("notes", .directory []),
    ("dns", .directory [("port", .directory [(grammarFile, .file bytes)])])]

/-- A disk on which that tree stands under the name `templates`. -/
def twoServicesDisk (bytes : ByteArray) : Disk :=
  .ofEntry (.directory [("templates", .directory (twoServices bytes))])

theorem readDirectory_twoServices (bytes : ByteArray) :
    (twoServicesDisk bytes).readDirectory "templates" = .ok (twoServices bytes) := rfl

section TwoServices

variable {bytes : ByteArray} {name : String} {names : List String} {inner : Listing}

theorem mem_twoServices : (name, .directory inner) ∈ twoServices bytes ↔
    name = "ssh" ∧ inner = [(grammarFile, .file bytes)] ∨ name = "notes" ∧ inner = [] ∨
      name = "dns" ∧ inner = [("port", .directory [(grammarFile, .file bytes)])] := by
  simp [twoServices]

theorem sound_leaf : Sound [(grammarFile, .file bytes)] := sound_of_inner (by simp) (by simp)

theorem sound_port : Sound [("port", .directory [(grammarFile, .file bytes)])] := by
  refine sound_of_inner (by simp) ?_
  intro name inner hmem
  obtain ⟨rfl, rfl⟩ : name = "port" ∧ inner = [(grammarFile, .file bytes)] := by simpa using hmem
  exact ⟨by decide, sound_leaf⟩

theorem sound_twoServices (bytes : ByteArray) : Sound (twoServices bytes) := by
  refine sound_of_inner (by simp [twoServices]) ?_
  intro name inner hmem
  rcases mem_twoServices.mp hmem with ⟨rfl, rfl⟩ | ⟨rfl, rfl⟩ | ⟨rfl, rfl⟩
  · exact ⟨by decide, sound_leaf⟩
  · exact ⟨by decide, sound_of_inner (by simp) (by simp)⟩
  · exact ⟨by decide, sound_port⟩

theorem readable_twoServices {text : String} (h : String.fromUTF8? bytes = some text)
    (names : List String) : ¬ Unreadable (twoServices bytes) names := by
  have hleaf : ∀ names, ¬ Unreadable [(grammarFile, .file bytes)] names := by
    intro names
    cases names <;> simp [unreadable_nil, unreadable_cons, h]
  have hport : ∀ names, ¬ Unreadable [("port", .directory [(grammarFile, .file bytes)])] names := by
    intro names
    cases names <;> simp [unreadable_nil, unreadable_cons, hleaf]
  cases names with
  | nil => simp [unreadable_nil, twoServices]
  | cons name rest =>
    rw [unreadable_cons]
    rintro ⟨inner, hmem, hun⟩
    rcases mem_twoServices.mp hmem with ⟨-, rfl⟩ | ⟨-, rfl⟩ | ⟨-, rfl⟩
    · exact hleaf rest hun
    · cases rest <;> simp [unreadable_nil, unreadable_cons] at hun
    · exact hport rest hun

/-- All but the directory without a grammar file is kept, where that file says something. -/
theorem kept_twoServices (h : Speaks [(grammarFile, .file bytes)]) :
    Kept (twoServices bytes) names ↔ names ∈ [[], ["dns"], ["dns", "port"], ["ssh"]] := by
  have hworth : Worth [(grammarFile, .file bytes)] := ⟨[], _, .here _, h⟩
  have hleaf : ∀ rest, Kept [(grammarFile, .file bytes)] rest → rest = [] := by
    intro rest hrest
    cases rest with
    | nil => rfl
    | cons next more =>
      obtain ⟨inner, hmem, -⟩ := kept_cons.mp hrest
      simp at hmem
  have hport : Worth [("port", .directory [(grammarFile, .file bytes)])] :=
    ⟨["port"], _, .step List.mem_cons_self (.here _), h⟩
  have hnotes : ¬ Worth [] := by
    intro h
    rcases worth_iff.mp h with ⟨_, _, hmem, -⟩ | ⟨_, _, hmem, -⟩ <;> cases hmem
  cases names with
  | nil => exact iff_of_true (.inl rfl) List.mem_cons_self
  | cons name rest =>
    rw [kept_cons]
    constructor
    · rintro ⟨inner, hmem, hinner, hrest⟩
      rcases mem_twoServices.mp hmem with ⟨rfl, rfl⟩ | ⟨rfl, rfl⟩ | ⟨rfl, rfl⟩
      · simp [hleaf rest hrest]
      · exact absurd hinner hnotes
      · cases rest with
        | nil => simp
        | cons next more =>
          obtain ⟨inner, hmem, -, hmore⟩ := kept_cons.mp hrest
          obtain ⟨rfl, rfl⟩ : next = "port" ∧ inner = [(grammarFile, .file bytes)] := by
            simpa using hmem
          simp [hleaf more hmore]
    · intro hnames
      simp only [List.mem_cons, List.cons.injEq, List.not_mem_nil, or_false, reduceCtorEq,
        false_or] at hnames
      rcases hnames with ⟨rfl, rfl⟩ | ⟨rfl, rfl⟩ | ⟨rfl, rfl⟩
      · exact ⟨_, mem_twoServices.mpr (.inr (.inr ⟨rfl, rfl⟩)), hport, .inl rfl⟩
      · exact ⟨_, mem_twoServices.mpr (.inr (.inr ⟨rfl, rfl⟩)), hport,
          kept_cons.mpr ⟨_, List.mem_cons_self, hworth, .inl rfl⟩⟩
      · exact ⟨_, mem_twoServices.mpr (.inl ⟨rfl, rfl⟩), hworth, .inl rfl⟩

end TwoServices

/-- A grammar file of one block, below a remark. -/
def serviceText : String := "# a service\nhelp: Service"

theorem speaks_serviceText : Speaks [(grammarFile, .file serviceText.toUTF8)] := by
  let help : Block :=
    ⟨"help", " Service", [], by decide, by decide, by decide, by decide, by decide⟩
  have htext : String.fromUTF8? serviceText.toUTF8 =
      some (Block.rendering ["# a service"] [([], help)]) := by decide
  refine (sound_leaf.speaks_iff_of_blocks List.mem_cons_self htext (by decide) (by decide)).mpr ?_
  exact ⟨([], help), List.mem_cons_self, .inl (by decide)⟩

/-- The grammar has a node for each directory but that without a grammar file, with what the grammar
file gives. Grammar files that are no texts are reported. -/
theorem ofDisk_mirrors_twoServices :
    (∃ schema, ofDisk (twoServicesDisk serviceText.toUTF8) "templates" = .ok schema ∧
      Mirrors (twoServices serviceText.toUTF8) schema ∧ schema.count = 4 ∧
      (∃ port, schema.find? ["dns", "port"] = some port ∧ port.path = "dns/port" ∧
        port.help = some "Service") ∧
      (∃ dns, schema.find? ["dns"] = some dns ∧ dns.help = none) ∧
      schema.find? ["notes"] = none) ∧
    ∃ first, Unreadable (twoServices ⟨#[255]⟩) first ∧
      (∀ names, Unreadable (twoServices ⟨#[255]⟩) names → NoLater first names) ∧
      ofDisk (twoServicesDisk ⟨#[255]⟩) "templates" = .error
        (.file (FilePath.join (first.foldl FilePath.join "templates") grammarFile) .notText) := by
  constructor
  · have htext : String.fromUTF8? serviceText.toUTF8 = some serviceText := by decide
    obtain ⟨schema, hschema, hmirrors⟩ :=
      (ofDisk_mirrors (readDirectory_twoServices _) (sound_twoServices _)).1
        (readable_twoServices htext)
    have hkept := fun names => @kept_twoServices _ names speaks_serviceText
    refine ⟨schema, hschema, hmirrors, ?_, ?_, ?_, ?_⟩
    · let places : Finset (List String) := {[], ["dns"], ["dns", "port"], ["ssh"]}
      have hplaces : {names | Kept (twoServices serviceText.toUTF8) names} = ↑places := by
        ext names
        simpa [places] using hkept names
      rw [hmirrors.count_eq, hplaces, Set.ncard_coe_finset]
      decide
    · obtain ⟨port, hport⟩ := (hmirrors.node_iff ["dns", "port"]).mpr ((hkept _).mpr (by decide))
      have hleads : Leads (twoServices serviceText.toUTF8) ["dns", "port"]
          [(grammarFile, .file serviceText.toUTF8)] :=
        .step (mem_twoServices.mpr (.inr (.inr ⟨rfl, rfl⟩))) (.step List.mem_cons_self (.here _))
      have hbare := hmirrors.attributes hport hleads List.mem_cons_self htext
      have hfind := (hmirrors.find_iff (List.cons_ne_nil _ _)).mpr hport
      refine ⟨port, hfind, hmirrors.path_eq hport, ?_⟩
      exact (congrArg (·.help) hbare).trans (by rfl)
    · obtain ⟨dns, hdns⟩ := (hmirrors.node_iff ["dns"]).mpr ((hkept _).mpr (by decide))
      have hleads : Leads (twoServices serviceText.toUTF8) ["dns"]
          [("port", .directory [(grammarFile, .file serviceText.toUTF8)])] :=
        .step (mem_twoServices.mpr (.inr (.inr ⟨rfl, rfl⟩))) (.here _)
      have hbare := hmirrors.no_attributes hdns hleads (by simp)
      refine ⟨dns, (hmirrors.find_iff (List.cons_ne_nil _ _)).mpr hdns, ?_⟩
      exact congrArg (·.help) hbare
    · rw [Option.eq_none_iff_forall_ne_some]
      intro notes hnotes
      have hnode := (hmirrors.find_iff (List.cons_ne_nil _ _)).mp hnotes
      exact absurd ((hkept _).mp ((hmirrors.node_iff _).mp ⟨notes, hnode⟩)) (by decide)
  · have hun : Unreadable (twoServices ⟨#[255]⟩) ["ssh"] := by
      rw [unreadable_cons]
      exact ⟨_, List.mem_cons_self, unreadable_nil.mpr ⟨_, List.mem_cons_self, by decide⟩⟩
    exact (ofDisk_mirrors (readDirectory_twoServices _) (sound_twoServices _)).2 ⟨["ssh"], hun⟩

end RouterConfig.Schema
