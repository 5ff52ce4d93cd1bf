/-
RouterConfig.Proofs.Schema.Folders — directory trees, whatever the order in
which their entries are listed.

Names lead from one directory down to another (`Leads`), which is a matter
of what the directories hold and not of the order of it. A directory is
kept when it is the root, or when it or one below it has a grammar file
that says something (`Kept`). A grammar file that is no text is unreadable
(`Unreadable`). Of a file system we ask that no directory holds two entries
of one name and that a directory has a name (`Sound`).
-/
import RouterConfig.Proofs.Schema.Attributes
import RouterConfig.Proofs.Schema.Places
import RouterConfig.Proofs.Schema.Scopes
import RouterConfig.Schema.Directory

namespace RouterConfig

/-- The entries of a directory, in the order in which they are listed. -/
abbrev Listing := List (String × Entry)

namespace Listing

/-! ## 1. Names that lead to a directory -/

/-- The names lead down from a directory to another, subdirectory by subdirectory. -/
inductive Leads : Listing → List String → Listing → Prop
  | here (entries : Listing) : Leads entries [] entries
  | step {entries inner target : Listing} {name : String} {names : List String}
      (mem : (name, .directory inner) ∈ entries) (leads : Leads inner names target) :
      Leads entries (name :: names) target

variable {entries inner target : Listing} {name : String} {names : List String}

@[simp] theorem leads_nil : Leads entries [] target ↔ target = entries := by
  constructor
  · rintro ⟨⟩
    rfl
  · rintro rfl
    exact .here _

theorem leads_cons : Leads entries (name :: names) target ↔
    ∃ inner, (name, .directory inner) ∈ entries ∧ Leads inner names target := by
  constructor
  · rintro ⟨⟩
    exact ⟨_, ‹_›, ‹_›⟩
  · rintro ⟨inner, hmem, hleads⟩
    exact .step hmem hleads

theorem Leads.append {more : List String} {last : Listing} (h : Leads entries names target)
    (h' : Leads target more last) : Leads entries (names ++ more) last := by
  induction h with
  | here => exact h'
  | step hmem _ ih => exact .step hmem (ih h')

/-- What holds of a directory when it holds of its subdirectories holds of all directories. -/
theorem induction {motive : Listing → Prop}
    (step : ∀ entries, (∀ name inner, (name, Entry.directory inner) ∈ entries → motive inner) →
      motive entries) (entries : Listing) : motive entries := by
  refine step entries ?_
  intro name inner hmem
  have hsmaller : sizeOf inner < sizeOf entries := by
    have := List.sizeOf_lt_of_mem hmem
    simp only [Prod.mk.sizeOf_spec, Entry.directory.sizeOf_spec] at this
    omega
  exact induction step inner
termination_by sizeOf entries

/-! ## 2. What a file system grants -/

/-- No directory holds two entries of one name, and every subdirectory has a name. -/
structure Sound (entries : Listing) : Prop where
  distinct : ∀ {names inner}, Leads entries names inner → (inner.map (·.1)).Nodup
  named : ∀ {names inner}, Leads entries names inner →
    ∀ {name below}, (name, .directory below) ∈ inner → name ≠ ""

namespace Sound

variable (h : Sound entries)
include h

theorem leads (hleads : Leads entries names inner) : Sound inner where
  distinct hmore := h.distinct (hleads.append hmore)
  named hmore := h.named (hleads.append hmore)

theorem descend (hmem : (name, .directory inner) ∈ entries) : Sound inner :=
  h.leads (.step hmem (.here inner))

/-- An entry is found by its name. -/
theorem named?_eq_some_iff {entry : Entry} :
    Entry.named? name entries = some entry ↔ (name, entry) ∈ entries := by
  rw [Entry.named?, Option.map_eq_some_iff]
  simp only [find?_key_eq_some_iff (h.distinct (.here entries))]
  constructor
  · rintro ⟨e, ⟨hmem, rfl⟩, rfl⟩
    exact hmem
  · intro hmem
    exact ⟨(name, entry), ⟨hmem, rfl⟩, rfl⟩

theorem eq_of_mem {a b : Entry} (ha : (name, a) ∈ entries) (hb : (name, b) ∈ entries) : a = b :=
  Option.some.inj ((h.named?_eq_some_iff.mpr ha).symm.trans (h.named?_eq_some_iff.mpr hb))

/-- Names lead to one directory at most. -/
theorem unique {a b : Listing} (ha : Leads entries names a) (hb : Leads entries names b) :
    a = b := by
  induction names generalizing entries with
  | nil => rw [leads_nil.mp ha, leads_nil.mp hb]
  | cons name rest ih =>
    obtain ⟨inner, hmem, ha⟩ := leads_cons.mp ha
    obtain ⟨inner', hmem', hb⟩ := leads_cons.mp hb
    have heq := h.eq_of_mem hmem hmem'
    obtain rfl := Entry.directory.inj heq
    exact ih (h.descend hmem) ha hb

/-- The names on the way to a directory are not empty. -/
theorem ne_empty (hleads : Leads entries names target) : ∀ name ∈ names, name ≠ "" := by
  induction names generalizing entries with
  | nil => simp
  | cons first rest ih =>
    obtain ⟨inner, hmem, hleads⟩ := leads_cons.mp hleads
    rw [List.forall_mem_cons]
    exact ⟨h.named (.here entries) hmem, ih (h.descend hmem) hleads⟩

end Sound

theorem sound_of_inner (hdistinct : (entries.map (·.1)).Nodup)
    (hinner : ∀ name inner, (name, .directory inner) ∈ entries → name ≠ "" ∧ Sound inner) :
    Sound entries := by
  constructor
  · intro names target hleads
    cases hleads with
    | here => exact hdistinct
    | step hmem hleads => exact (hinner _ _ hmem).2.distinct hleads
  · intro names target hleads name below hmem'
    cases hleads with
    | here => exact (hinner _ _ hmem').1
    | step hmem hleads => exact (hinner _ _ hmem).2.named hleads hmem'

/-! ## 3. Grammar files -/

/-- The directory has a grammar file of which a scope says something about a node. -/
def Speaks (entries : Listing) : Prop :=
  ∃ content text, (Schema.grammarFile, .file content) ∈ entries ∧
    String.fromUTF8? content = some text ∧
    ∃ scope ∈ Schema.Scope.ofText text, scope.Recognized

/-- The directory, or one below it, has a grammar file that says something. -/
def Worth (entries : Listing) : Prop := ∃ names inner, Leads entries names inner ∧ Speaks inner

/-- The directory at these names becomes a node. -/
def Kept (entries : Listing) (names : List String) : Prop :=
  names = [] ∨ ∃ inner, Leads entries names inner ∧ Worth inner

/-- The grammar file of the directory at these names is no text. -/
def Unreadable (entries : Listing) (names : List String) : Prop :=
  ∃ inner content, Leads entries names inner ∧ (Schema.grammarFile, .file content) ∈ inner ∧
    String.fromUTF8? content = none

/-- Directories at these names are visited in this order, or are the same: a directory comes before
those below it, and what is below one sibling before what is below the next by name. -/
inductive NoLater : List String → List String → Prop
  | above (names : List String) : NoLater [] names
  | sibling {name other : String} (lt : name < other) (names others : List String) :
      NoLater (name :: names) (other :: others)
  | inside (name : String) {names others : List String} (noLater : NoLater names others) :
      NoLater (name :: names) (name :: others)

section Speaks

variable {content : ByteArray} {text : String}

/-- A directory has one grammar file at most, and speaks with the scopes of its text. -/
theorem Sound.speaks_iff (h : Sound entries) (hfile : (Schema.grammarFile, .file content) ∈ entries)
    (htext : String.fromUTF8? content = some text) :
    Speaks entries ↔ ∃ scope ∈ Schema.Scope.ofText text, scope.Recognized := by
  constructor
  · rintro ⟨content', text', hfile', htext', hscope⟩
    obtain rfl := Entry.file.inj (h.eq_of_mem hfile hfile')
    obtain rfl := Option.some.inj (htext.symm.trans htext')
    exact hscope
  · intro hscope
    exact ⟨content, text, hfile, htext, hscope⟩

/-- A grammar file that is written as blocks says something when one of the blocks does. -/
theorem Sound.speaks_iff_of_blocks (h : Sound entries) {above : List String}
    {parts : List (List String × Schema.Block)}
    (hfile : (Schema.grammarFile, .file content) ∈ entries)
    (htext : String.fromUTF8? content = some (Schema.Block.rendering above parts))
    (habove : ∀ line ∈ above, Schema.Idle line.toList)
    (hparts : ∀ part ∈ parts,
      (∀ line ∈ part.1, Schema.Blank line.toList) ∧ '\r' ∉ part.2.text.toList) :
    Speaks entries ↔ ∃ part ∈ parts, part.2.scope.Recognized := by
  rw [h.speaks_iff hfile htext, Schema.ofText_rendering habove hparts]
  simp only [List.mem_map, exists_exists_and_eq_and]

/-- So does any grammar file, as every text has the scopes of some blocks. -/
theorem Sound.exists_blocks (h : Sound entries)
    (hfile : (Schema.grammarFile, .file content) ∈ entries)
    (htext : String.fromUTF8? content = some text) (hreturn : '\r' ∉ text.toList) :
    ∃ blocks : List Schema.Block, Schema.Scope.ofText text = blocks.map (·.scope) ∧
      (Speaks entries ↔ ∃ b ∈ blocks, b.scope.Recognized) := by
  obtain ⟨blocks, hblocks, -⟩ := Schema.exists_blocks hreturn
  refine ⟨blocks, hblocks, ?_⟩
  rw [h.speaks_iff hfile htext, hblocks]
  simp only [List.mem_map, exists_exists_and_eq_and]

end Speaks

theorem worth_iff : Worth entries ↔
    Speaks entries ∨ ∃ name inner, (name, .directory inner) ∈ entries ∧ Worth inner := by
  constructor
  · rintro ⟨names, target, hleads, hspeaks⟩
    cases hleads with
    | here => exact .inl hspeaks
    | step hmem hleads => exact .inr ⟨_, _, hmem, _, target, hleads, hspeaks⟩
  · rintro (hspeaks | ⟨name, inner, hmem, names, target, hleads, hspeaks⟩)
    · exact ⟨[], entries, .here entries, hspeaks⟩
    · exact ⟨name :: names, target, .step hmem hleads, hspeaks⟩

theorem kept_cons : Kept entries (name :: names) ↔
    ∃ inner, (name, .directory inner) ∈ entries ∧ Worth inner ∧ Kept inner names := by
  constructor
  · rintro (hnil | ⟨target, hleads, hworth⟩)
    · cases hnil
    · obtain ⟨inner, hmem, hleads⟩ := leads_cons.mp hleads
      obtain ⟨more, last, hmore, hspeaks⟩ := hworth
      exact ⟨inner, hmem, ⟨names ++ more, last, hleads.append hmore, hspeaks⟩,
        .inr ⟨target, hleads, more, last, hmore, hspeaks⟩⟩
  · rintro ⟨inner, hmem, hworth, rfl | ⟨target, hleads, hworth'⟩⟩
    · exact .inr ⟨inner, .step hmem (.here inner), hworth⟩
    · exact .inr ⟨target, .step hmem hleads, hworth'⟩

theorem unreadable_nil : Unreadable entries [] ↔
    ∃ content, (Schema.grammarFile, .file content) ∈ entries ∧
      String.fromUTF8? content = none := by
  simp [Unreadable]

theorem unreadable_cons : Unreadable entries (name :: names) ↔
    ∃ inner, (name, .directory inner) ∈ entries ∧ Unreadable inner names := by
  simp only [Unreadable, leads_cons]
  constructor
  · rintro ⟨target, content, ⟨inner, hmem, hleads⟩, hfile⟩
    exact ⟨inner, hmem, target, content, hleads, hfile⟩
  · rintro ⟨inner, hmem, target, content, hleads, hfile⟩
    exact ⟨target, content, ⟨inner, hmem, hleads⟩, hfile⟩

end Listing

end RouterConfig
