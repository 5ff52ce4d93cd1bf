/-
RouterConfig.Proofs.Definition.TagNames — which names of a template are
checked against their tag.

`tag_names_checked`: of a tree that a template at the root has made,
whatever a tag objects to in the name of a definition below it is reported
by `validate`, unless the name is the placeholder. That name is not checked
at all, and `placeholder_not_checked` shows a tag that would have objected.

## How the proof goes

A name below a tag becomes a tag value, and a tag value is checked against
the tag. A path does not keep that a step is a tag value, though: it is read
off the two texts of the step, which are the same for the placeholder
(`Step.segment_ofSegment_placeholder`). `Definition.AsNamed` says what is
left of a name after that. A template that is put at the root makes no other
definitions (`asNamed_insertTemplate`, by induction on the template): where
all above an entry is there already, the entry itself is all that is made
for it (`AsNamed.change`), and what has been gone through stays there
(`Leads.changes`).

## Side conditions

The template is put at the root of an empty tree, and the insertion went
through. Patterns may be read in any way: the objections of a tag are those
of its type and its constraints as `patterns` reads them, and they reach the
report unchanged.
-/
import RouterConfig.Definition.Validation
import RouterConfig.Pattern.Reader
import RouterConfig.Proofs.Definition.Graft

namespace RouterConfig

/-! ## 1. Names below a grammar node -/

@[simp] theorem Segment.literal_under (parent : Option SchemaNode) (name : String) :
    (under parent name).literal = name := by
  unfold under
  split <;> rfl

@[simp] theorem Step.literal_ofSegment (s : Segment) : (ofSegment s).literal = s.literal := rfl

theorem Step.segment_ofSegment_value {name : String} (h : name ≠ placeholder) :
    (ofSegment (.value name)).segment = .value name := by
  simp [segment, isValue, ofSegment, Segment.schema, Segment.literal, h]

/-- A tag value that is spelled like the placeholder is taken for a fixed word. -/
theorem Step.segment_ofSegment_placeholder :
    (ofSegment (.value placeholder)).segment = .fixed placeholder := by
  simp [segment, isValue, ofSegment, Segment.schema, Segment.literal]

namespace Definition

/-- The segment is what a path keeps of the name below the grammar node of the parent. -/
def AsNamed (d : Definition) : Prop :=
  d.segment = (Step.ofSegment (.under d.parentNode d.name)).segment

/-- The name of a definition below a tag is checked against it, unless it is the placeholder. -/
theorem AsNamed.nameObjections {d : Definition} (h : d.AsNamed) {tag : SchemaNode}
    (hparent : d.parentNode = some tag) (htag : tag.isTag = true) (patterns : PatternReader) :
    d.nameObjections patterns =
      if d.name = placeholder then [] else tag.objections patterns d.name := by
  have hunder : Segment.under d.parentNode d.name = .value d.name := by
    simp [Segment.under, hparent, htag]
  rw [AsNamed, hunder] at h
  split
  case isTrue hname =>
    rw [hname, Step.segment_ofSegment_placeholder] at h
    simp [Definition.nameObjections, h]
  case isFalse hname =>
    rw [Step.segment_ofSegment_value hname] at h
    simp [Definition.nameObjections, h, hparent]

end Definition

namespace Definitions

open Definition

/-! ## 2. What is on the way to a path -/

/-- Every key of a tree keeps its place. -/
theorem Changes.index_kept {P : ConfigPath → Prop} {t t' : Definitions} (hc : Changes P t t')
    {k : String} {l : Location} (hk : t.index.get? k = some l) : t'.index.get? k = some l := by
  induction hc with
  | refl => exact hk
  | tail _ hstep ih =>
    cases hstep with
    | @grow path done step loc siblings allowed onWay stands room container vacant =>
      have hne : (done.snoc step).key ≠ k := by
        rintro rfl
        rw [ih] at vacant
        cases vacant
      rw [index_grow, if_neg hne]
      exact ih
    | value v allowed stands childless => exact ih
    | comment c allowed stands => exact ih

/-- All that is on the way to a path is there, and so is the path. -/
def Leads (t : Definitions) (path : ConfigPath) : Prop :=
  ∀ p : ConfigPath, p.isRoot = false → p.steps <+: path.steps → ∃ l, t.index.get? p.key = some l

theorem leads_root (t : Definitions) : t.Leads .root := by
  intro p hp hprefix
  have hnil := List.prefix_nil.mp hprefix
  simp [ConfigPath.isRoot, hnil] at hp

theorem Leads.changes {P : ConfigPath → Prop} {t t' : Definitions} {path : ConfigPath}
    (h : t.Leads path) (hc : Changes P t t') : t'.Leads path := by
  intro p hp hprefix
  obtain ⟨l, hl⟩ := h p hp hprefix
  exact ⟨l, hc.index_kept hl⟩

/-- What is found or made has been gone through step by step. -/
theorem leads_ensure {t t' : Definitions} (h : Indexed t) {path : ConfigPath} {loc : Location}
    (hrun : ensure path t = .ok loc t') : t'.Leads path := by
  intro p hp hprefix
  obtain ⟨rest, hrest⟩ := hprefix
  obtain ⟨hroot, hstands⟩ := (ensure_changes path h).2 loc t' hrun
  cases hcase : rest with
  | nil =>
    obtain rfl : p = path := by
      cases p
      cases path
      simpa [hcase] using hrest
    exact ⟨loc, hstands.index hp⟩
  | cons step more =>
    have hne : rest ≠ [] := by simp [hcase]
    have hopen : t.Open [] := by
      intro f hf
      cases hf
    have hbelow : ensureBelow .root [] (p.steps ++ rest) t = .ok loc t' := by
      rw [hrest]
      simpa [ensure, hroot] using hrun
    have hstart : t.Stands .root [] := stands_nil t rfl
    obtain ⟨m, u, hfirst, hopen', hsecond⟩ :=
      ensureBelow_append p.steps hne h hstart hopen hbelow
    -- the place of `p` is known when the descent has come there, and is kept from then on
    have hpath : ConfigPath.root.steps ++ p.steps = p.steps := rfl
    obtain ⟨hbefore, hfound⟩ := ensureBelow_changes p.steps h hstart (fun _ => hopen) hpath
    have hstands' := hfound m u hfirst
    rw [Edit.after_ok hfirst] at hbefore
    have hafter : Changes (· = path) u (Edit.after (ensureBelow p m rest) u) :=
      (ensureBelow_changes rest (h.changes hbefore) hstands' (fun _ => hopen') hrest).1
    have hsecond' : ensureBelow p m rest u = .ok loc t' := hsecond
    rw [Edit.after_ok hsecond'] at hafter
    exact ⟨m, hafter.index_kept (hstands'.index hp)⟩

/-! ## 3. Templates -/

/-- Every definition of the tree is as its name makes it. -/
def AsNamed (t : Definitions) : Prop := ∀ l f, t.face? l = some f → f.AsNamed

section Entry

variable {schema : SchemaNode} {above : ConfigPath} {name : String} {t t' : Definitions}

/-- Where all above an entry is there, the entry itself is all that is made for it. -/
theorem AsNamed.change (ht : t.AsNamed) (hschema : t.schema = schema) (hleads : t.Leads above)
    (hc : Change (· = entryPath schema above name) t t') : t'.AsNamed := by
  refine hc.forall_face ?_ (fun _ _ _ h => h) ht
  rintro path done step rfl onWay vacant
  obtain ⟨rfl, rfl⟩ : done = above ∧ step = Step.ofSegment (.under (schema.at? above) name) := by
    rcases List.prefix_concat_iff.mp onWay with heq | hbefore
    · obtain ⟨hdone, hstep⟩ := List.append_inj' heq rfl
      exact ⟨ConfigPath.eq_of_steps hdone, (List.cons.inj hstep).1⟩
    · obtain ⟨l, hl⟩ := hleads (done.snoc step) (ConfigPath.isRoot_snoc done step) hbefore
      rw [hl] at vacant
      cases vacant
  subst hschema
  rw [Definition.AsNamed, Definition.name_bound, Step.literal_ofSegment, Segment.literal_under]
  rfl

theorem AsNamed.changes (ht : t.AsNamed) (hschema : t.schema = schema) (hleads : t.Leads above)
    (hc : Changes (· = entryPath schema above name) t t') : t'.AsNamed := by
  induction hc with
  | refl => exact ht
  | tail hbefore hstep ih =>
    exact ih.change ((Changes.schema_eq hbefore).trans hschema) (hleads.changes hbefore) hstep

end Entry

/-- A tree with definitions as named, where all on the way to a path is there. -/
structure Entered (schema : SchemaNode) (above : ConfigPath) (t : Definitions) : Prop where
  indexed : Indexed t
  schema_eq : t.schema = schema
  leads : t.Leads above
  asNamed : t.AsNamed

theorem Entered.changes {schema : SchemaNode} {above : ConfigPath} {name : String}
    {t t' : Definitions} (h : Entered schema above t)
    (hc : Changes (· = entryPath schema above name) t t') : Entered schema above t' where
  indexed := h.indexed.changes hc
  schema_eq := (Changes.schema_eq hc).trans h.schema_eq
  leads := h.leads.changes hc
  asNamed := h.asNamed.changes h.schema_eq h.leads hc

mutual

theorem Entered.insertEntry {schema : SchemaNode} {above : ConfigPath} {t t' : Definitions}
    (h : Entered schema above t) (name : String) : (value : TemplateValue) →
    insertEntry schema (entryPath schema above name) value t = .ok () t' → Entered schema above t'
  | .scalar _, hrun => h.changes ((keeps_setValue _ _).changes h.indexed hrun)
  | .list _, hrun => h.changes ((keeps_setValue _ _).changes h.indexed hrun)
  | .node entries, hrun => by
    obtain ⟨_, u, hensure, hbelow⟩ := bind_eq_ok.mp hrun
    obtain ⟨loc, v, hloc, hpure⟩ := bind_eq_ok.mp hensure
    cases hpure
    have hu := h.changes ((keeps_ensure _).changes h.indexed hloc)
    -- the entries below are put where the way is already made
    have hentered : Entered schema (entryPath schema above name) u :=
      { hu with leads := leads_ensure h.indexed hloc }
    have hdone := hentered.insertEntries entries hbelow
    have hlater := (keeps_insertEntries schema _ entries).changes hu.indexed hbelow
    exact { hdone with leads := hu.leads.changes hlater }
  | .presence, hrun => by
    obtain ⟨loc, u, hloc, hpure⟩ := bind_eq_ok.mp hrun
    cases hpure
    exact h.changes ((keeps_ensure _).changes h.indexed hloc)

theorem Entered.insertEntries {schema : SchemaNode} {above : ConfigPath} {t t' : Definitions}
    (h : Entered schema above t) : (entries : TemplateEntries) →
    insertEntries schema above entries t = .ok () t' → Entered schema above t'
  | [], hrun => by
    cases hrun
    exact h
  | (name, value) :: rest, hrun => by
    obtain ⟨_, u, hfirst, hrest⟩ := bind_eq_ok.mp hrun
    exact (h.insertEntry name value hfirst).insertEntries rest hrest

end

theorem entered_new (schema : SchemaNode) (policy : DuplicatePolicy) :
    Entered schema .root (new schema policy) where
  indexed := indexed_new schema policy
  schema_eq := rfl
  leads := leads_root _
  asNamed := by
    intro l f hf
    cases l with
    | nil => cases hf
    | cons i rest => cases rest <;> cases hf

/-- A template at the root makes all definitions as their names say. -/
theorem asNamed_insertTemplate {schema : SchemaNode} {policy : DuplicatePolicy}
    {template : Template} {t : Definitions}
    (h : insertTemplate .root template (new schema policy) = .ok () t) {d : Definition}
    (hd : d ∈ t.walk) : d.AsNamed := by
  have hentered : Entered schema .root t :=
    (entered_new schema policy).insertEntries template.entries h
  obtain ⟨l, hl⟩ := mem_walkAll.mp hd
  exact hentered.asNamed l d.bare (face?_of_at? hl)

variable {patterns : PatternReader}

theorem mem_validate {t : Definitions} {d : Definition} (hd : d ∈ t.walk) {message : String}
    (h : message ∈ d.nameObjections patterns) : ⟨d.key, message⟩ ∈ t.validate patterns :=
  List.mem_flatMap.mpr ⟨d, hd, List.mem_map.mpr ⟨message, List.mem_append_left _ h, rfl⟩⟩

/-- **Whatever a tag objects to in the name of a definition below it is reported, unless the name is
the placeholder**, however patterns are read. The placeholder itself is not checked at all. -/
theorem tag_names_checked (patterns : PatternReader) {schema : SchemaNode}
    {policy : DuplicatePolicy} {template : Template} {t : Definitions}
    (h : insertTemplate .root template (new schema policy) = .ok () t)
    {d : Definition} (hd : d ∈ t.walk) {tag : SchemaNode} (hparent : d.parentNode = some tag)
    (htag : tag.isTag = true) :
    (d.name ≠ placeholder → ∀ message ∈ tag.objections patterns d.name,
      ⟨d.key, message⟩ ∈ t.validate patterns) ∧
    (d.name = placeholder → d.nameObjections patterns = []) := by
  have hobjections := (asNamed_insertTemplate h hd).nameObjections hparent htag patterns
  constructor
  · intro hname message hmessage
    rw [if_neg hname] at hobjections
    exact mem_validate hd (hobjections ▸ hmessage)
  · intro hname
    rwa [if_pos hname] at hobjections

/-- A tag for numbers, with one flag below each of them. -/
def numberTag : SchemaNode :=
  { name := "rule", path := "rule", type := .u32, isTag := true, children := [
    { name := placeholder, path := "rule/node.tag", children := [
      { name := "log", path := "rule/node.tag/log" }] }] }

/-- A template with one name below the tag for numbers, put at the root. -/
def numbered (name : String) : EStateM.Result DefinitionError Definitions Unit :=
  insertTemplate .root (.ofEntries [("rule", .node [(name, .node [("log", .presence)])])])
    (new { name := "templates", path := "", children := [numberTag] } .warn)

/-- Whether an edit succeeds and makes such a tree. -/
def madeTree (p : Definitions → Bool) : EStateM.Result DefinitionError Definitions Unit → Bool
  | .ok () t => p t
  | .error _ _ => false

theorem exists_of_madeTree {p : Definitions → Bool}
    {r : EStateM.Result DefinitionError Definitions Unit} (h : madeTree p r = true) :
    ∃ t, r = .ok () t ∧ p t = true := by
  cases r with
  | ok a t => exact ⟨t, rfl, h⟩
  | error cause t => cases h

/-- Whether some definition has a tag above it that says this of its name. -/
def hasObjection (patterns : PatternReader) (message : String) (t : Definitions) : Bool :=
  t.walk.any fun d => d.parentNode.any fun tag =>
    tag.isTag && (tag.objections patterns d.name).contains message

theorem exists_of_hasObjection {message : String} {t : Definitions}
    (h : hasObjection patterns message t = true) : ∃ d ∈ t.walk, ∃ tag, d.parentNode = some tag ∧
      tag.isTag = true ∧ message ∈ tag.objections patterns d.name := by
  obtain ⟨d, hd, htag⟩ := List.any_eq_true.mp h
  cases hparent : d.parentNode with
  | none => simp [hparent] at htag
  | some tag =>
    simp only [hparent, Option.any_some, Bool.and_eq_true, List.contains_iff_mem] at htag
    exact ⟨d, hd, tag, hparent, htag.1, htag.2⟩

/-- A name that is no number is reported. -/
theorem tag_names_checked_number : ∃ t, numbered "ten" = .ok () t ∧
    ∃ d ∈ t.walk, d.name ≠ placeholder ∧
      ⟨d.key, "'ten' is not a valid u32"⟩ ∈ t.validate Pattern.reader := by
  have hrun : madeTree (fun t => hasObjection Pattern.reader "'ten' is not a valid u32" t &&
      t.walk.all (·.name != placeholder)) (numbered "ten") = true := by decide +kernel
  obtain ⟨t, ht, hrun⟩ := exists_of_madeTree hrun
  simp only [Bool.and_eq_true, List.all_eq_true, bne_iff_ne] at hrun
  obtain ⟨d, hd, tag, hparent, htag, hmessage⟩ := exists_of_hasObjection hrun.1
  have hname := hrun.2 d hd
  exact ⟨t, ht, d, hd, hname,
    (tag_names_checked Pattern.reader ht hd hparent htag).1 hname _ hmessage⟩

/-- The placeholder is no number either, but below the tag nothing is reported of it. -/
theorem placeholder_not_checked : ∃ t, numbered placeholder = .ok () t ∧
    t.validate Pattern.reader = [] ∧ ∃ d ∈ t.walk, ∃ tag, d.parentNode = some tag ∧
      tag.isTag = true ∧ "'node.tag' is not a valid u32" ∈ tag.objections Pattern.reader d.name := by
  have hrun : madeTree (fun t =>
      hasObjection Pattern.reader "'node.tag' is not a valid u32" t &&
        (t.validate Pattern.reader).isEmpty) (numbered placeholder) = true := by decide +kernel
  obtain ⟨t, ht, hrun⟩ := exists_of_madeTree hrun
  simp only [Bool.and_eq_true, List.isEmpty_iff] at hrun
  exact ⟨t, ht, hrun.2, exists_of_hasObjection hrun.1⟩

end Definitions

end RouterConfig
