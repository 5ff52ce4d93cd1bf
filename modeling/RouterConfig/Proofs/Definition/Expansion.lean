/-
RouterConfig.Proofs.Definition.Expansion — a path and a template expanded
on their own, and put into a tree step by step.

`attach_populated_eq_furnish`: the branch that a path and a template expand
to, attached to the empty tree, gives the very tree that the edits make
which ensure the path and insert the template (`furnish`). Without a
template the branch is a chain of the steps of the path, each bound exactly
when the grammar has a node at its names (`Spans`), and the key of the path
leads along it.

## How the proof goes

The expansion makes a branch at once, and the branch is attached as a whole
(`attach_new`). The edit makes one definition after the other, and looks
each of them up by its key. The two agree where every definition is missing
when the edit comes to it (`Fresh`): the way is made step by step
(`branches_put`, by induction on the steps), and the entries below it by
induction on the template (`insertEntries_puts`). That keys are distinct is
read off the branch, whose keys are those of the template below that of the
path (`keys_branches`, `nodup_keys_branches`).

## Side conditions

The path is not that of the root. The names that lead to the entries of the
template can be told by their keys, and none is the placeholder
(`Template.Plain`): a step of that name is a fixed word in a path and a tag
value in a branch. The policy is any, as nothing is set twice.
-/
import RouterConfig.Definition.Chain
import RouterConfig.Proofs.Definition.Putting
import RouterConfig.Proofs.Definition.TagNames
import RouterConfig.Proofs.Merge.Adoption
import RouterConfig.Proofs.Schema.Places

namespace RouterConfig

/-! ## 1. The names of a template -/

namespace TemplateEntries

mutual

/-- The names that lead to the entries and to those below them. -/
def keyPaths : TemplateEntries → List (List String)
  | [] => []
  | (name, value) :: rest => (keyPathsFrom value).map (name :: ·) ++ keyPaths rest

/-- The names that lead from an entry to itself and to those below it. -/
def keyPathsFrom : TemplateValue → List (List String)
  | .node entries => [] :: keyPaths entries
  | .scalar _ | .list _ | .presence => [[]]

end

theorem exists_of_mem_keyPaths {entries : TemplateEntries} {p : List String}
    (h : p ∈ keyPaths entries) : ∃ e ∈ entries, ∃ q, p = e.1 :: q := by
  induction entries with
  | nil => cases h
  | cons e rest ih =>
    rw [keyPaths, List.mem_append] at h
    rcases h with h | h
    · obtain ⟨q, -, rfl⟩ := List.mem_map.mp h
      exact ⟨e, List.mem_cons_self, q, rfl⟩
    · obtain ⟨e', he', q, rfl⟩ := ih h
      exact ⟨e', List.mem_cons_of_mem _ he', q, rfl⟩

theorem ne_nil_of_mem_keyPaths {entries : TemplateEntries} {p : List String}
    (h : p ∈ keyPaths entries) : p ≠ [] := by
  obtain ⟨e, -, q, rfl⟩ := exists_of_mem_keyPaths h
  exact List.cons_ne_nil e.1 q

mutual

/-- Where the names ascend, the names that lead to entries do, each before those that go on
from it. -/
theorem pairwise_keyPaths : (entries : TemplateEntries) → Ordered entries →
    (keyPaths entries).Pairwise (· < ·)
  | [], _ => .nil
  | (name, value) :: rest, h => by
    obtain ⟨hname, hvalue, hrest⟩ := h
    rw [keyPaths, List.pairwise_append, List.pairwise_map]
    refine ⟨?_, pairwise_keyPaths rest hrest, ?_⟩
    · exact (pairwise_keyPathsFrom value hvalue).imp fun hlt =>
        List.cons_lt_cons_iff.mpr (.inr ⟨rfl, hlt⟩)
    · intro p hp q hq
      obtain ⟨p', -, rfl⟩ := List.mem_map.mp hp
      obtain ⟨e, he, q', rfl⟩ := exists_of_mem_keyPaths hq
      exact List.cons_lt_cons_iff.mpr (.inl (hname e he))

theorem pairwise_keyPathsFrom : (value : TemplateValue) → OrderedValue value →
    (keyPathsFrom value).Pairwise (· < ·)
  | .node entries, h => by
    rw [keyPathsFrom, List.pairwise_cons]
    refine ⟨fun p hp => ?_, pairwise_keyPaths entries h⟩
    obtain ⟨name, rest, rfl⟩ := List.exists_cons_of_ne_nil (ne_nil_of_mem_keyPaths hp)
    exact List.nil_lt_cons name rest
  | .scalar _, _ => List.pairwise_singleton _ _
  | .list _, _ => List.pairwise_singleton _ _
  | .presence, _ => List.pairwise_singleton _ _

end

/-- No two entries have the same names leading to them. -/
theorem nodup_keyPaths {entries : TemplateEntries} (h : Ordered entries) : (keyPaths entries).Nodup :=
  (pairwise_keyPaths entries h).imp fun {p q} hlt heq => by
    subst heq
    exact List.lt_irrefl p hlt

end TemplateEntries

/-- The names that lead to the entries of a template, at every depth. -/
def Template.keyPaths (template : Template) : List (List String) := template.entries.keyPaths

/-! ## 2. The paths of an expansion -/

theorem ConfigPath.exists_step {path : ConfigPath} (h : path.isRoot = false) :
    ∃ step rest, path.steps = step :: rest := by
  rw [isRoot, List.isEmpty_eq_false_iff] at h
  exact List.exists_cons_of_ne_nil h

namespace Definition

variable {schema : SchemaNode} {template : Template} {path done : ConfigPath}

mutual

theorem paths_ofEntry (schema : SchemaNode) (above : ConfigPath) (segment : Segment) :
    (value : TemplateValue) → (ofEntry schema above segment value).walk.map (·.fullPath.literal)
      = (TemplateEntries.keyPathsFrom value).map fun p => above.literal ++ segment.literal :: p
  | .node entries => by
    rw [ofEntry, walk_eq, List.map_cons,
      paths_entriesBelow schema (above.append [segment]) _ entries, TemplateEntries.keyPathsFrom,
      List.map_cons, ConfigPath.literal_append]
    simp [fullPath, bound]
  | .scalar _ => by simp [ofEntry, walk_eq, TemplateEntries.keyPathsFrom, fullPath, bound]
  | .list _ => by simp [ofEntry, walk_eq, TemplateEntries.keyPathsFrom, fullPath, bound]
  | .presence => by simp [ofEntry, walk_eq, TemplateEntries.keyPathsFrom, fullPath, bound]

/-- The paths of the definitions that a template gives continue the path above by its names. -/
theorem paths_entriesBelow (schema : SchemaNode) (above : ConfigPath) (node : Option SchemaNode) :
    (entries : TemplateEntries) →
      (walkAll (entriesBelow schema above node entries)).map (·.fullPath.literal)
        = (TemplateEntries.keyPaths entries).map (above.literal ++ ·)
  | [] => rfl
  | (name, value) :: rest => by
    rw [entriesBelow, walkAll, List.map_append,
      paths_ofEntry schema above (.under node name) value,
      paths_entriesBelow schema above node rest, TemplateEntries.keyPaths, List.map_append,
      List.map_map, Segment.literal_under]
    rfl

end

/-- What a path and a template give below `done`: the chain of the steps after it, or the entries of
the template where no step is left. -/
def branches (schema : SchemaNode) (template : Template) (done : ConfigPath) :
    List Step → List Definition
  | [] => entriesBelow schema done (schema.at? done) template.entries
  | step :: rest =>
    [(bound schema done step.segment).withChildren (branches schema template (done.snoc step) rest)]

theorem chainBelow_cons (step : Step) (rest : List Step) :
    chainBelow schema template done (step :: rest) = some ((bound schema done step.segment).withChildren
      (branches schema template (done.snoc step) rest)) := by
  induction rest generalizing done step with
  | nil => rfl
  | cons next more ih =>
    have hnext := @ih (done.snoc step) next
    rw [ConfigPath.snoc] at hnext
    rw [chainBelow, hnext]
    rfl

theorem exists_populated (hroot : path.isRoot = false) : ∃ d,
    populated? schema path template = some d ∧
      branches schema template .root path.steps = [d] ∧ d.parent = .root := by
  obtain ⟨step, rest, hsteps⟩ := ConfigPath.exists_step hroot
  refine ⟨(bound schema .root step.segment).withChildren
    (branches schema template (ConfigPath.root.snoc step) rest), ?_, ?_, rfl⟩
  · rw [populated?, hsteps, chainBelow_cons]
  · rw [hsteps, branches]

/-- The paths of a branch are those on the way to the path, and those of the template below it. -/
theorem paths_branches (steps : List Step) :
    (walkAll (branches schema template done steps)).map (·.fullPath.literal)
      = (done.wayFrom steps).map (·.literal)
        ++ template.keyPaths.map ((⟨done.steps ++ steps⟩ : ConfigPath).literal ++ ·) := by
  induction steps generalizing done with
  | nil =>
    rw [ConfigPath.mk_append_nil]
    exact paths_entriesBelow schema done _ template.entries
  | cons step rest ih =>
    have hpath : (bound schema done step.segment).fullPath = done.snoc step :=
      ConfigPath.append_segment done step
    rw [branches, walkAll_singleton, walk_eq, List.map_cons, withChildren_children, ih,
      ConfigPath.mk_append_cons, ConfigPath.wayFrom, List.map_cons, List.cons_append]
    exact congrArg (·.literal :: _) hpath

end Definition

/-! ## 3. Each definition has a key of its own -/

theorem ConfigPath.nodup_keys_wayFrom (done : ConfigPath) (steps : List Step) :
    ((done.wayFrom steps).map (·.key)).Nodup := by
  induction steps generalizing done with
  | nil => exact List.nodup_nil
  | cons step rest ih =>
    rw [wayFrom, List.map_cons, List.nodup_cons]
    refine ⟨?_, ih _⟩
    intro hmem
    obtain ⟨p, hp, hkey⟩ := List.mem_map.mp hmem
    obtain ⟨first, hne, -, hsteps⟩ := mem_wayFrom.mp hp
    obtain rfl : p = ⟨(done.snoc step).steps ++ first⟩ := eq_of_steps hsteps
    exact key_ne_of_prefix (isRoot_snoc done step) hne hkey.symm

/-- The names of a template can be told by their keys, and none of them is the placeholder. -/
structure Template.Plain (template : Template) : Prop where
  distinct : ∀ p ∈ template.keyPaths, ∀ q ∈ template.keyPaths,
    Text.join "/" p = Text.join "/" q → p = q
  named : ∀ p ∈ template.keyPaths, placeholder ∉ p

namespace Definition

variable {schema : SchemaNode} {template : Template} {path : ConfigPath}

theorem keys_branches (hroot : path.isRoot = false) :
    (walkAll (branches schema template .root path.steps)).map (·.key)
      = path.way.map (·.key) ++ template.keyPaths.map fun p => path.key ++ "/" ++ Text.join "/" p := by
  have hpaths := congrArg (List.map (Text.join "/"))
    (@paths_branches schema template .root path.steps)
  have hpath : (⟨ConfigPath.root.steps ++ path.steps⟩ : ConfigPath) = path := rfl
  have hne : path.literal ≠ [] := by
    simpa [ConfigPath.literal, ConfigPath.isRoot] using hroot
  rw [List.map_map, List.map_append, List.map_map, List.map_map, hpath] at hpaths
  refine hpaths.trans (congrArg _ (List.map_congr_left fun p hp => ?_))
  exact Text.join_append hne (TemplateEntries.ne_nil_of_mem_keyPaths hp)

theorem nodup_keys_branches (hroot : path.isRoot = false) (hplain : template.Plain) :
    ((walkAll (branches schema template .root path.steps)).map (·.key)).Nodup := by
  rw [keys_branches hroot, List.nodup_append]
  refine ⟨ConfigPath.nodup_keys_wayFrom _ _, ?_, ?_⟩
  · refine (List.nodup_map_iff_inj_on ?_).mpr ?_
    · exact TemplateEntries.nodup_keyPaths template.ordered
    · intro p hp q hq heq
      exact hplain.distinct p hp q hq (by simpa using heq)
  · -- the keys on the way are not longer than that of the path
    intro k hk k' hk'
    obtain ⟨p, hp, rfl⟩ := List.mem_map.mp hk
    obtain ⟨q, -, rfl⟩ := List.mem_map.mp hk'
    obtain ⟨hproot, hstarts⟩ := ConfigPath.mem_way.mp hp
    have hlength := (ConfigPath.keyWithin_of_prefix hproot hstarts).length_le
    intro heq
    have := congrArg String.length heq
    simp only [String.length_append] at this
    have : "/".length = 1 := rfl
    omega

end Definition

/-! ## 4. The definitions come into the tree one by one -/

theorem Step.segment_ofSegment {s : Segment} (h : s.literal ≠ placeholder) :
    (ofSegment s).segment = s := by
  cases s with
  | fixed name => simp [segment, isValue, ofSegment, Segment.schema, Segment.literal]
  | value name => exact segment_ofSegment_value h

namespace Definition

/-- The name of a definition that a template gives is one of the names that lead to it. -/
theorem exists_keyPath {schema : SchemaNode} {above : ConfigPath} {node : Option SchemaNode}
    {entries : TemplateEntries} {e : Definition}
    (he : e ∈ walkAll (entriesBelow schema above node entries)) :
    ∃ p ∈ entries.keyPaths, e.name ∈ p := by
  have hmem := List.mem_map_of_mem (f := (·.fullPath.literal)) he
  rw [paths_entriesBelow] at hmem
  obtain ⟨p, hp, hpath⟩ := List.mem_map.mp hmem
  have hne := TemplateEntries.ne_nil_of_mem_keyPaths hp
  rw [fullPath_literal] at hpath
  have hlast := congrArg List.getLast? hpath
  rw [List.getLast?_append_of_ne_nil _ hne, List.getLast?_concat] at hlast
  exact ⟨p, hp, List.mem_of_getLast? hlast⟩

end Definition

namespace Definitions

open Definition

/-- Definitions with keys of their own that the tree does not have, whose segments are kept by a
path. -/
structure Fresh (t : Definitions) (ds : List Definition) : Prop where
  vacant : t.Vacant ds
  distinct : ((walkAll ds).map (·.key)).Nodup
  restored : ∀ e ∈ walkAll ds, (Step.ofSegment e.segment).segment = e.segment

section Fresh

variable {t u : Definitions} {above : ConfigPath} {segment : Segment} {loc : Location}
  {b d : Definition} {cs ds siblings : List Definition}

theorem Fresh.head (h : t.Fresh (d :: ds)) : t.Fresh [d] where
  vacant e he := h.vacant e (by
    rw [walkAll, List.mem_append, ← walkAll_singleton]
    exact .inl he)
  distinct := by
    have := h.distinct
    rw [walkAll, List.map_append, ← walkAll_singleton] at this
    exact this.of_append_left
  restored e he := h.restored e (by
    rw [walkAll, List.mem_append, ← walkAll_singleton]
    exact .inl he)

/-- Once the first of several definitions is put, the others are fresh still. -/
theorem Fresh.tail (h : t.Fresh (d :: ds)) (hputs : Puts t loc [d] u) : u.Fresh ds := by
  obtain ⟨hvacant, hdistinct, hrestored⟩ := h
  rw [walkAll, List.map_append, ← walkAll_singleton, List.nodup_append] at hdistinct
  refine ⟨?_, hdistinct.2.1, fun e he => hrestored e ?_⟩
  · intro e he
    rw [hputs.index_kept]
    · exact hvacant e (by rw [walkAll, List.mem_append]; exact .inr he)
    · intro hmem
      exact hdistinct.2.2 e.key hmem e.key (List.mem_map_of_mem he) rfl
  · rw [walkAll, List.mem_append]
    exact .inr he

theorem Fresh.top (h : t.Fresh [b.withChildren cs]) (hb : b.children = []) : t.Fresh [b] := by
  have hself : b.withChildren cs ∈ walkAll [b.withChildren cs] := mem_walkAll_of_mem (by simp)
  have hwalk : walkAll [b] = [b] := by
    rw [walkAll_singleton, walk_eq, hb, walkAll_nil]
  refine ⟨?_, ?_, ?_⟩
  · rw [Vacant, hwalk, List.forall_mem_singleton]
    exact h.vacant (b.withChildren cs) hself
  · rw [hwalk]
    exact List.nodup_singleton _
  · rw [hwalk, List.forall_mem_singleton]
    exact h.restored (b.withChildren cs) hself

/-- Once a definition is put, those that are to stand below it are fresh still. -/
theorem Fresh.below (h : t.Fresh [b.withChildren cs]) (hb : b.children = [])
    (hputs : Puts t loc [b] u) : u.Fresh cs := by
  obtain ⟨hvacant, hdistinct, hrestored⟩ := h
  have hwalk : walkAll [b.withChildren cs] = b.withChildren cs :: walkAll cs := by
    rw [walkAll_singleton, walk_eq, withChildren_children]
  rw [Vacant, hwalk, List.forall_mem_cons] at hvacant
  rw [hwalk, List.map_cons, List.nodup_cons] at hdistinct
  rw [hwalk, List.forall_mem_cons] at hrestored
  refine ⟨?_, hdistinct.2, hrestored.2⟩
  intro e he
  rw [hputs.index_kept, hvacant.2 e he]
  rw [keys_of_childless hb, List.mem_singleton]
  intro hkey
  have hmem := List.mem_map_of_mem (f := (·.key)) he
  rw [hkey] at hmem
  exact hdistinct.1 hmem

/-- A fresh definition is made at the end of a way that is made. -/
theorem ensure_puts (h : t.Ready above loc) (hfresh : t.Fresh [bound t.schema above segment])
    (room : below? t.roots loc = some siblings) :
    ∃ u, ensure (above.append [segment]) t = .ok (loc ++ [siblings.length]) u ∧
      Puts t loc [bound t.schema above segment] u ∧
      u.Ready (above.append [segment]) (loc ++ [siblings.length]) := by
  have hself : bound t.schema above segment ∈ walkAll [bound t.schema above segment] :=
    mem_walkAll_of_mem (by simp)
  have hvacant : t.index.get? (above.snoc (.ofSegment segment)).key = none :=
    hfresh.vacant _ hself
  have hsegment : (Step.ofSegment segment).segment = segment := hfresh.restored _ hself
  have hputs := Puts.grow h.indexed h.stands h.open room hvacant
  rw [hsegment] at hputs
  exact ⟨_, ensure_ready h room hvacant, hputs, h.grow room hvacant⟩

/-- The same with a value for it. -/
theorem setValue_puts (h : t.Ready above loc) {value : Value}
    (hfresh : t.Fresh [{ bound t.schema above segment with value }]) :
    ∃ u, setValue (above.append [segment]) value t = .ok () u ∧
      Puts t loc [{ bound t.schema above segment with value }] u := by
  obtain ⟨siblings, room⟩ := h.stands.room h.indexed
  have hself : { bound t.schema above segment with value } ∈
      walkAll [{ bound t.schema above segment with value }] := mem_walkAll_of_mem (by simp)
  have hvacant : t.index.get? (above.snoc (.ofSegment segment)).key = none :=
    hfresh.vacant _ hself
  have hsegment : (Step.ofSegment segment).segment = segment := hfresh.restored _ hself
  have hputs := Puts.grow h.indexed h.stands h.open room hvacant
  have hkey := (h.grow room hvacant).stands.index (ConfigPath.isRoot_snoc _ _)
  have hvalue := hputs.value room rfl (by rwa [key_bound]) value
  rw [hsegment] at hvalue
  exact ⟨_, setValue_ready h room hvacant value, hvalue⟩

end Fresh

mutual

theorem insertEntry_puts {schema : SchemaNode} {above : ConfigPath} {loc : Location}
    {t : Definitions} (segment : Segment) : (value : TemplateValue) → t.Ready above loc →
    t.schema = schema → t.Fresh [ofEntry schema above segment value] →
    ∃ t', insertEntry schema (above.append [segment]) value t = .ok () t' ∧
      Puts t loc [ofEntry schema above segment value] t'
  | .scalar scalar, h, hschema, hfresh => by
    subst hschema
    exact setValue_puts h hfresh
  | .list items, h, hschema, hfresh => by
    subst hschema
    exact setValue_puts h hfresh
  | .node entries, h, hschema, hfresh => by
    subst hschema
    obtain ⟨siblings, room⟩ := h.stands.room h.indexed
    obtain ⟨u, hensure, hputs, hready⟩ := ensure_puts h (hfresh.top rfl) room
    obtain ⟨t', hinsert, hbelow⟩ :=
      insertEntries_puts entries hready hputs.schema_eq (hfresh.below rfl hputs)
    have hdiscard : discard (ensure (above.append [segment])) t = .ok () u := bind_of_ok hensure
    exact ⟨t', (bind_of_ok hdiscard).trans hinsert, hputs.below room rfl hbelow⟩
  | .presence, h, hschema, hfresh => by
    subst hschema
    obtain ⟨siblings, room⟩ := h.stands.room h.indexed
    obtain ⟨u, hensure, hputs, -⟩ := ensure_puts h hfresh room
    exact ⟨u, bind_of_ok hensure, hputs⟩

/-- The entries of a template come below a way that is made just as they are expanded. -/
theorem insertEntries_puts {schema : SchemaNode} {above : ConfigPath} {loc : Location}
    {t : Definitions} : (entries : TemplateEntries) → t.Ready above loc → t.schema = schema →
    t.Fresh (entriesBelow schema above (schema.at? above) entries) →
    ∃ t', insertEntries schema above entries t = .ok () t' ∧
      Puts t loc (entriesBelow schema above (schema.at? above) entries) t'
  | [], h, _, _ => ⟨t, rfl, .refl h.indexed⟩
  | (name, value) :: rest, h, hschema, hfresh => by
    obtain ⟨u, hfirst, hputs⟩ :=
      insertEntry_puts (.under (schema.at? above) name) value h hschema hfresh.head
    obtain ⟨t', hrest, hputs'⟩ := insertEntries_puts rest (h.puts hfresh.head.vacant hputs)
      (hputs.schema_eq.trans hschema) (hfresh.tail hputs)
    exact ⟨t', (bind_of_ok hfirst).trans hrest, hputs.trans hputs'⟩

end

/-- The chain of a path and the template below it come into the tree as they are expanded. -/
theorem branches_put {schema : SchemaNode} {template : Template} {t : Definitions}
    {done : ConfigPath} {loc : Location} (steps : List Step) (h : t.Ready done loc)
    (hschema : t.schema = schema) (hfresh : t.Fresh (branches schema template done steps)) :
    ∃ l u t', ensureBelow done loc steps t = .ok l u ∧
      insertEntries schema ⟨done.steps ++ steps⟩ template.entries u = .ok () t' ∧
      Puts t loc (branches schema template done steps) t' := by
  induction steps generalizing done loc t with
  | nil =>
    obtain ⟨t', hinsert, hputs⟩ := insertEntries_puts template.entries h hschema hfresh
    exact ⟨loc, t, t', rfl, by rwa [ConfigPath.mk_append_nil], hputs⟩
  | cons step rest ih =>
    subst hschema
    obtain ⟨siblings, room⟩ := h.stands.room h.indexed
    have hvacant : t.index.get? (done.snoc step).key = none := by
      have hself := hfresh.vacant _ (mem_walkAll_of_mem List.mem_cons_self)
      rwa [← key_bound t.schema done step]
    have hputs := Puts.grow h.indexed h.stands h.open room hvacant
    obtain ⟨l, u, t', hensure, hinsert, hbelow⟩ :=
      ih (h.grow room hvacant) rfl (hfresh.below rfl hputs)
    refine ⟨l, u, t', ?_, by rwa [ConfigPath.mk_append_cons], hputs.below room rfl hbelow⟩
    rw [ensureBelow_missing hvacant room]
    exact hensure

/-! ## 5. The branch as a whole -/

theorem restored_branches {schema : SchemaNode} {template : Template} {done : ConfigPath}
    (hplain : template.Plain) (steps : List Step) :
    ∀ e ∈ walkAll (branches schema template done steps),
      (Step.ofSegment e.segment).segment = e.segment := by
  induction steps generalizing done with
  | nil =>
    intro e he
    obtain ⟨p, hp, hname⟩ := exists_keyPath he
    refine Step.segment_ofSegment fun hplaceholder => ?_
    have hplaceholder : e.name = placeholder := hplaceholder
    rw [hplaceholder] at hname
    exact hplain.named p hp hname
  | cons step rest ih =>
    rw [branches, walkAll_singleton, walk_eq, List.forall_mem_cons]
    exact ⟨congrArg Step.segment (Step.ofSegment_segment step), ih⟩

theorem fresh_branches {schema : SchemaNode} {policy : DuplicatePolicy} {template : Template}
    {path : ConfigPath} (hroot : path.isRoot = false) (hplain : template.Plain) :
    (new schema policy).Fresh (branches schema template .root path.steps) where
  vacant _ _ := rfl
  distinct := nodup_keys_branches hroot hplain
  restored := restored_branches hplain path.steps

/-- A branch that is attached to the empty tree gives the indexed tree with it as its root. -/
theorem attach_new {t : Definitions} {d : Definition} (ht : Indexed t) (hroots : t.roots = [d])
    (hparent : d.parent = .root) :
    attach .root d (new t.schema t.policy) = .ok () t := by
  have hindexed := indexed_new t.schema t.policy
  have hstands : (new t.schema t.policy).Stands d.parent [] :=
    stands_nil _ (by rw [hparent]; rfl)
  have hopen : (new t.schema t.policy).Open [] := by
    intro f hf
    cases hf
  have room : below? (new t.schema t.policy).roots [] = some [] := rfl
  have hattach := attach_eq_adopted (d := d) rfl hstands rfl room
  have hdistinct : ((walkAll [d]).map (·.key)).Nodup := by
    rw [← hroots]
    exact ht.nodup_keys
  have hgrounded : Grounded [d] := by
    rw [← hroots]
    exact fun p hp c hc => ht.child_of_mem hp hc
  have hadopts := (Adopts.refl (new t.schema t.policy)).adopted (d := d) hdistinct hstands hopen
    room room
  have hadopted := hadopts.indexed hindexed (fun _ _ => rfl) hgrounded
  rw [hparent] at hattach
  rw [hattach, hadopted.ext ht (schema_adopted _) (policy_adopted _) (by rw [roots_adopted, hroots]; rfl)]

end Definitions

/-! ## 6. Chains -/

namespace Definition

variable {schema : SchemaNode} {done : ConfigPath}

/-- The definitions are those of the steps of a path, each with the grammar node that the names of
its own path lead to, if they lead to one. A grammar keeps the children of a node by name, so no two
of them share a name. -/
structure Spans (schema : SchemaNode) (path : ConfigPath) (ds : List Definition) : Prop where
  segments : ds.map (·.segment) = path.segments
  fullPaths : ds.map (·.fullPath) = path.way
  bound : schema.Distinct → ∀ e ∈ ds, ∀ node,
    e.node = some node ↔ schema.Leads e.fullPath.schema node

/-- The place at the end of a chain of that many steps. -/
def chainEnd (steps : List Step) : Location := steps.map fun _ => 0

theorem along_chain (steps : List Step) : along (branches schema ∅ done steps) (chainEnd steps)
    = walkAll (branches schema ∅ done steps) := by
  induction steps generalizing done with
  | nil => rfl
  | cons step rest ih =>
    rw [branches, walkAll_singleton, walk_eq, withChildren_children, ← ih]
    rfl

theorem at?_chain (step : Step) (rest : List Step) :
    ∃ e, at? (branches schema ∅ done (step :: rest)) (chainEnd (step :: rest)) = some e ∧
      e.fullPath = ⟨done.steps ++ step :: rest⟩ := by
  induction rest generalizing done step with
  | nil => exact ⟨_, rfl, ConfigPath.append_segment done step⟩
  | cons next more ih =>
    obtain ⟨e, he, hpath⟩ := @ih (done.snoc step) next
    exact ⟨e, he, by simpa using hpath⟩

theorem segments_chain (steps : List Step) :
    (walkAll (branches schema ∅ done steps)).map (·.segment) = steps.map (·.segment) := by
  induction steps generalizing done with
  | nil => rfl
  | cons step rest ih =>
    rw [branches, walkAll_singleton, walk_eq, List.map_cons, withChildren_children, ih]
    rfl

theorem fullPaths_chain (steps : List Step) :
    (walkAll (branches schema ∅ done steps)).map (·.fullPath) = done.wayFrom steps := by
  induction steps generalizing done with
  | nil => rfl
  | cons step rest ih =>
    rw [branches, walkAll_singleton, walk_eq, List.map_cons, withChildren_children, ih,
      ConfigPath.wayFrom]
    exact congrArg (· :: _) (ConfigPath.append_segment done step)

theorem node_chain (steps : List Step) :
    ∀ e ∈ walkAll (branches schema ∅ done steps), e.node = schema.at? e.fullPath := by
  induction steps generalizing done with
  | nil =>
    intro e he
    cases he
  | cons step rest ih =>
    rw [branches, walkAll_singleton, walk_eq, List.forall_mem_cons]
    exact ⟨rfl, ih⟩

theorem spans_chain (path : ConfigPath) :
    Spans schema path (walkAll (branches schema ∅ .root path.steps)) where
  segments := segments_chain path.steps
  fullPaths := fullPaths_chain path.steps
  bound hdistinct e he node := by
    rw [node_chain path.steps e he]
    exact hdistinct.descend?_eq_some_iff

end Definition

namespace Definitions

open Definition

/-- The edit that makes the definitions on the way to a path and puts a template below. -/
def furnish (path : ConfigPath) (template : Template) : Edit Unit := do
  discard (ensure path)
  insertTemplate path template

/-- The edits put the branch of the path and the template into the empty tree. -/
theorem furnish_puts {schema : SchemaNode} {path : ConfigPath} {template : Template}
    (policy : DuplicatePolicy) (hroot : path.isRoot = false) (hplain : template.Plain) :
    ∃ t, furnish path template (new schema policy) = .ok () t ∧
      Puts (new schema policy) [] (branches schema template .root path.steps) t := by
  have hindexed := indexed_new schema policy
  obtain ⟨l, u, t, hdescent, hinsert, hputs⟩ :=
    branches_put path.steps (ready_root hindexed) rfl (fresh_branches hroot hplain)
  have hensure : ensure path (new schema policy) = .ok l u := by
    rw [ensure, if_neg (by simp [hroot])]
    exact hdescent
  have hdiscard : discard (ensure path) (new schema policy) = .ok () u := bind_of_ok hensure
  have hschema : u.schema = schema :=
    Changes.schema_eq ((keeps_ensure path).changes hindexed hensure)
  refine ⟨t, ?_, hputs⟩
  rw [furnish, bind_of_ok hdiscard, insertTemplate, get_bind, hschema]
  exact hinsert

/-- In a tree that is a chain the key of the path leads along the whole of it. -/
theorem chain_of_roots {schema : SchemaNode} {path : ConfigPath} {t : Definitions} (h : Indexed t)
    (hroot : path.isRoot = false) (hroots : t.roots = branches schema ∅ .root path.steps) :
    t.chain path.key = t.walk := by
  obtain ⟨step, rest, hsteps⟩ := ConfigPath.exists_step hroot
  obtain ⟨e, he, hpath⟩ := @at?_chain schema .root step rest
  rw [← hsteps, ← hroots] at he
  have hkey : e.key = path.key := by
    rw [key, hpath, ← hsteps]
    rfl
  have hindex := h.index_of_at? he
  rw [hkey] at hindex
  rw [chain, hindex, walk, hroots]
  exact along_chain path.steps

/-- **A branch expanded on its own agrees with the edits for it.** Attached to the empty tree it
gives the very tree that the edits make. Without a template the branch is a chain of the steps of
the path, and the key of the path leads along it. -/
theorem attach_populated_eq_furnish {schema : SchemaNode} {path : ConfigPath} {template : Template}
    (policy : DuplicatePolicy) (hroot : path.isRoot = false) (hplain : template.Plain) :
    ∃ d t, populated? schema path template = some d ∧
      attach .root d (new schema policy) = .ok () t ∧
      furnish path template (new schema policy) = .ok () t ∧
      (template = ∅ → sparse? schema path = some d ∧ t.chain path.key = d.walk ∧
        Spans schema path d.walk) := by
  obtain ⟨t, hfurnish, hputs⟩ := @furnish_puts schema path template policy hroot hplain
  obtain ⟨d, hpopulated, hbranch, hparent⟩ := @exists_populated schema template path hroot
  have hroots : t.roots = branches schema template .root path.steps := by
    rw [hputs.roots_eq, hbranch]
    rfl
  refine ⟨d, t, hpopulated, ?_, hfurnish, ?_⟩
  · have hattach := attach_new hputs.indexed (hroots.trans hbranch) hparent
    rwa [hputs.schema_eq, hputs.policy_eq] at hattach
  · rintro rfl
    have hwalk : t.walk = d.walk := by
      rw [walk, hroots, hbranch, walkAll_singleton]
    refine ⟨hpopulated, ?_, ?_⟩
    · rw [chain_of_roots hputs.indexed hroot hroots, hwalk]
    · rw [← hwalk, walk, hroots]
      exact spans_chain path

/-- A grammar with a tag for numbers. -/
def numberGrammar : SchemaNode := { name := "templates", path := "", children := [numberTag] }

theorem distinct_numberGrammar : numberGrammar.Distinct := by
  have hlog : SchemaNode.Distinct { name := "log", path := "rule/node.tag/log" } :=
    .of_children List.nodup_nil (by simp)
  refine .of_children (List.nodup_singleton _) (List.forall_mem_singleton.mpr ?_)
  refine .of_children (List.nodup_singleton _) (List.forall_mem_singleton.mpr ?_)
  exact .of_children (List.nodup_singleton _) (List.forall_mem_singleton.mpr hlog)

/-- Two numbers, one with a flag below it and one with a value. -/
def twoNumbers : Template :=
  .ofEntries [("10", .node [("log", .presence)]), ("20", .scalar (.flag true))]

/-- A path that leaves the grammar at its last step. -/
def missingPath : ConfigPath := .ofSegments [.fixed "rule", .value "10", .fixed "missing"]

/-- The two numbers below their tag, and a chain whose last definition the grammar does not know. -/
theorem attach_populated_eq_furnish_numbers :
    (∃ d t, populated? numberGrammar (.ofSegments [.fixed "rule"]) twoNumbers = some d ∧
      attach .root d (new numberGrammar .reject) = .ok () t ∧
      furnish (.ofSegments [.fixed "rule"]) twoNumbers (new numberGrammar .reject) = .ok () t ∧
      t.walk.map (fun e => (e.key, e.node.map (·.path), e.value)) =
        [("rule", some "rule", .empty), ("rule/10", some "rule/node.tag", .empty),
          ("rule/10/log", some "rule/node.tag/log", .empty),
          ("rule/20", some "rule/node.tag", .single "true")]) ∧
    ∃ d t, sparse? numberGrammar missingPath = some d ∧
      attach .root d (new numberGrammar .warn) = .ok () t ∧
      t.chain "rule/10/missing" = d.walk ∧
      d.walk.map (fun e => (e.key, e.node.map (·.path))) =
        [("rule", some "rule"), ("rule/10", some "rule/node.tag"), ("rule/10/missing", none)] ∧
      ∀ e ∈ d.walk, ∀ node, e.node = some node ↔ numberGrammar.Leads e.fullPath.schema node := by
  constructor
  · have hplain : twoNumbers.Plain := ⟨by decide +kernel, by decide +kernel⟩
    obtain ⟨d, t, hpopulated, hattach, hfurnish, -⟩ :=
      @attach_populated_eq_furnish numberGrammar (.ofSegments [.fixed "rule"]) twoNumbers .reject
        (by decide) hplain
    have hwalk : madeTree (fun t => decide (t.walk.map
        (fun e => (e.key, e.node.map (·.path), e.value)) =
          [("rule", some "rule", .empty), ("rule/10", some "rule/node.tag", .empty),
            ("rule/10/log", some "rule/node.tag/log", .empty),
            ("rule/20", some "rule/node.tag", .single "true")]))
        (furnish (.ofSegments [.fixed "rule"]) twoNumbers (new numberGrammar .reject)) = true := by
      decide +kernel
    rw [hfurnish] at hwalk
    exact ⟨d, t, hpopulated, hattach, hfurnish, of_decide_eq_true hwalk⟩
  · have hplain : (∅ : Template).Plain := ⟨by decide +kernel, by decide +kernel⟩
    obtain ⟨d, t, -, hattach, -, hchain⟩ :=
      @attach_populated_eq_furnish numberGrammar missingPath ∅ .warn (by decide) hplain
    obtain ⟨hsparse, hchain, hspans⟩ := hchain rfl
    have hwalk : (sparse? numberGrammar missingPath).map (fun d =>
        d.walk.map fun e => (e.key, e.node.map (·.path))) =
          some [("rule", some "rule"), ("rule/10", some "rule/node.tag"),
            ("rule/10/missing", none)] := by
      decide +kernel
    rw [hsparse] at hwalk
    exact ⟨d, t, hsparse, hattach, hchain, Option.some.inj hwalk,
      hspans.bound distinct_numberGrammar⟩

end Definitions

end RouterConfig
