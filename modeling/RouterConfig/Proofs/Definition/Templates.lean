/-
RouterConfig.Proofs.Definition.Templates — a template inserted into a tree
that has definitions already.

`insertTemplate_build`: after any calls, a template is inserted below a path
exactly when the tree accepts it (`Accepts`), which is so unless a value is
above an entry or definitions are below a value. It is then laid over the
tree (`Overlays`): the values are those that it gives, what is missing is
made after what is there and in the order of the names, and all else is
left.

## How the proof goes

To insert a template is to demand each of its entries, in the order in which
they stand (`insertEntries_eq`), and `Definition.Overlay` says what demands
leave of a tree that admits them. What remains is about templates:

* The names that lead to the entries ascend, each before those that go on
  from it (`pairwise_keyPaths`), so no entry is demanded twice
  (`eq_of_mem_places`).
* What stands above an entry is a node (`exists_node_above`), so no value of
  the template is in the way of another entry
  (`compatible_templateDemands`).
* Hence what refuses a template is in the tree (`admits_iff_accepts`).

## Side conditions

The template has an entry. Among its paths, and with the definitions of the
tree, a key belongs to one path (`Unambiguous`). The policy lets values be
replaced; under the other one a value that is there already is an error,
which is told of single values in `Definition.Setting`.
-/
import RouterConfig.Proofs.Definition.Expansion
import RouterConfig.Proofs.Definition.Overlay

namespace RouterConfig

/-! ## 1. The places of a template -/

/-- The value that an entry of a template gives its definition, if it is not a name only. -/
def TemplateValue.value? : TemplateValue → Option Value
  | .scalar s => some (.single s.render)
  | .list items => some (.multi (items.map Scalar.render))
  | .node _ | .presence => none

/-- Whether there are entries below an entry of a template. -/
def TemplateValue.hasEntries : TemplateValue → Bool
  | .node entries => !entries.isEmpty
  | .scalar _ | .list _ | .presence => false

/-- An entry asks for a value where it gives one. -/
theorem TemplateValue.getD_value?_ne_empty {value : TemplateValue} :
    value.value?.getD .empty ≠ .empty ↔ value.value?.isSome = true := by
  cases value <;> simp [value?]

theorem TemplateValue.value?_of_hasEntries {value : TemplateValue} (h : value.hasEntries = true) :
    value.value? = none := by
  cases value with
  | node entries => rfl
  | scalar s => cases h
  | list items => cases h
  | presence => rfl

namespace TemplateEntries

mutual

/-- The entries and those below them, each with the names that lead to it. -/
def places : TemplateEntries → List (List String × TemplateValue)
  | [] => []
  | (name, value) :: rest => (placesFrom value).map (fun e => (name :: e.1, e.2)) ++ places rest

/-- An entry and those below it, each with the names that lead from the entry to it. -/
def placesFrom : TemplateValue → List (List String × TemplateValue)
  | .node entries => ([], .node entries) :: places entries
  | .scalar s => [([], .scalar s)]
  | .list items => [([], .list items)]
  | .presence => [([], .presence)]

end

mutual

theorem map_places : (entries : TemplateEntries) → (places entries).map (·.1) = keyPaths entries
  | [] => rfl
  | (name, value) :: rest => by
    rw [places, keyPaths, List.map_append, map_places rest, ← map_placesFrom value, List.map_map,
      List.map_map]
    rfl

theorem map_placesFrom : (value : TemplateValue) → (placesFrom value).map (·.1) = keyPathsFrom value
  | .node entries => by rw [placesFrom, keyPathsFrom, List.map_cons, map_places entries]
  | .scalar _ => rfl
  | .list _ => rfl
  | .presence => rfl

end

variable {entries : TemplateEntries} {value : TemplateValue} {names : List String}

theorem mem_keyPaths : names ∈ keyPaths entries ↔ ∃ value, (names, value) ∈ places entries := by
  rw [← map_places, List.mem_map]
  constructor
  · rintro ⟨⟨names, value⟩, hmem, rfl⟩
    exact ⟨value, hmem⟩
  · rintro ⟨value, hmem⟩
    exact ⟨(names, value), hmem, rfl⟩

theorem ne_nil_of_mem_places (h : (names, value) ∈ places entries) : names ≠ [] :=
  ne_nil_of_mem_keyPaths (mem_keyPaths.mpr ⟨value, h⟩)

theorem mem_placesFrom_self (value : TemplateValue) : ([], value) ∈ placesFrom value := by
  cases value <;> simp [placesFrom]

theorem exists_mem_places (h : entries ≠ []) : ∃ name value, ([name], value) ∈ places entries := by
  obtain ⟨⟨name, value⟩, rest, rfl⟩ := List.exists_cons_of_ne_nil h
  refine ⟨name, value, ?_⟩
  rw [places]
  exact List.mem_append_left _ (List.mem_map_of_mem (mem_placesFrom_self value))

mutual

/-- On the way to an entry there are nodes. -/
theorem exists_node_above {names first : List String} {value : TemplateValue} :
    (entries : TemplateEntries) → (names, value) ∈ places entries → first <+: names → first ≠ [] →
      first = names ∨ ∃ v, v.hasEntries = true ∧ (first, v) ∈ places entries
  | [], hmem, _, _ => by cases hmem
  | (name, v) :: rest, hmem, hstarts, hne => by
    rw [places] at hmem
    simp only [places]
    rcases List.mem_append.mp hmem with hmem | hmem
    · obtain ⟨⟨names', value'⟩, hmem', heq⟩ := List.mem_map.mp hmem
      obtain ⟨rfl, rfl⟩ := Prod.mk.inj heq
      obtain ⟨n, first', rfl⟩ := List.exists_cons_of_ne_nil hne
      obtain ⟨rfl, hstarts'⟩ := List.cons_prefix_cons.mp hstarts
      rcases exists_node_aboveFrom v hmem' hstarts' with rfl | ⟨w, hw, hwmem⟩
      · exact .inl rfl
      · exact .inr ⟨w, hw, List.mem_append_left _
          (List.mem_map_of_mem (f := fun e => (n :: e.1, e.2)) hwmem)⟩
    · exact (exists_node_above rest hmem hstarts hne).imp_right fun ⟨w, hw, hwmem⟩ =>
        ⟨w, hw, List.mem_append_right _ hwmem⟩

theorem exists_node_aboveFrom {names first : List String} {value : TemplateValue} :
    (v : TemplateValue) → (names, value) ∈ placesFrom v → first <+: names →
      first = names ∨ ∃ w, w.hasEntries = true ∧ (first, w) ∈ placesFrom v
  | .node entries, hmem, hstarts => by
    rw [placesFrom] at hmem
    simp only [placesFrom]
    rcases List.mem_cons.mp hmem with heq | hmem
    · obtain ⟨rfl, rfl⟩ := Prod.mk.inj heq
      exact .inl (List.prefix_nil.mp hstarts)
    · by_cases hne : first = []
      · subst hne
        have hsome : entries ≠ [] := by
          rintro rfl
          cases hmem
        exact .inr ⟨.node entries, by simpa [TemplateValue.hasEntries] using hsome, List.mem_cons_self⟩
      · exact (exists_node_above entries hmem hstarts hne).imp_right fun ⟨w, hw, hwmem⟩ =>
          ⟨w, hw, List.mem_cons_of_mem _ hwmem⟩
  | .scalar _, hmem, hstarts => by
    obtain ⟨rfl, -⟩ := Prod.mk.inj (List.mem_singleton.mp hmem)
    exact .inl (List.prefix_nil.mp hstarts)
  | .list _, hmem, hstarts => by
    obtain ⟨rfl, -⟩ := Prod.mk.inj (List.mem_singleton.mp hmem)
    exact .inl (List.prefix_nil.mp hstarts)
  | .presence, hmem, hstarts => by
    obtain ⟨rfl, -⟩ := Prod.mk.inj (List.mem_singleton.mp hmem)
    exact .inl (List.prefix_nil.mp hstarts)

end

mutual

/-- Below a node that has entries there is one of them. -/
theorem exists_below {names : List String} {value : TemplateValue} :
    (entries : TemplateEntries) → (names, value) ∈ places entries → value.hasEntries = true →
      ∃ name v, (names ++ [name], v) ∈ places entries
  | [], hmem, _ => by cases hmem
  | (name, v) :: rest, hmem, hentries => by
    rw [places] at hmem
    simp only [places]
    rcases List.mem_append.mp hmem with hmem | hmem
    · obtain ⟨⟨names', value'⟩, hmem', heq⟩ := List.mem_map.mp hmem
      obtain ⟨rfl, rfl⟩ := Prod.mk.inj heq
      obtain ⟨n, w, hwmem⟩ := exists_belowFrom v hmem' hentries
      exact ⟨n, w, List.mem_append_left _
        (List.mem_map_of_mem (f := fun e => (name :: e.1, e.2)) hwmem)⟩
    · obtain ⟨n, w, hwmem⟩ := exists_below rest hmem hentries
      exact ⟨n, w, List.mem_append_right _ hwmem⟩

theorem exists_belowFrom {names : List String} {value : TemplateValue} :
    (v : TemplateValue) → (names, value) ∈ placesFrom v → value.hasEntries = true →
      ∃ name w, (names ++ [name], w) ∈ placesFrom v
  | .node entries, hmem, hentries => by
    rw [placesFrom] at hmem
    simp only [placesFrom]
    rcases List.mem_cons.mp hmem with heq | hmem
    · obtain ⟨rfl, rfl⟩ := Prod.mk.inj heq
      have hsome : entries ≠ [] := by simpa [TemplateValue.hasEntries] using hentries
      obtain ⟨name, w, hwmem⟩ := exists_mem_places hsome
      exact ⟨name, w, List.mem_cons_of_mem _ hwmem⟩
    · obtain ⟨name, w, hwmem⟩ := exists_below entries hmem hentries
      exact ⟨name, w, List.mem_cons_of_mem _ hwmem⟩
  | .scalar _, hmem, hentries => by
    obtain ⟨rfl, rfl⟩ := Prod.mk.inj (List.mem_singleton.mp hmem)
    cases hentries
  | .list _, hmem, hentries => by
    obtain ⟨rfl, rfl⟩ := Prod.mk.inj (List.mem_singleton.mp hmem)
    cases hentries
  | .presence, hmem, hentries => by
    obtain ⟨rfl, rfl⟩ := Prod.mk.inj (List.mem_singleton.mp hmem)
    cases hentries

end

/-- Names lead to one entry. -/
theorem eq_of_mem_places {v w : TemplateValue} (h : Ordered entries)
    (hv : (names, v) ∈ places entries) (hw : (names, w) ∈ places entries) : v = w := by
  have hnodup : ((places entries).map (·.1)).Nodup := by
    rw [map_places]
    exact nodup_keyPaths h
  exact (Prod.mk.inj (List.inj_on_of_nodup_map hnodup hv hw rfl)).2

/-- Of two entries next to each other the one with the lesser name comes first, and nothing that
goes on from the names of the other comes before that one. -/
theorem exists_before (h : Ordered entries) {first second : String}
    (hfirst : names ++ [first] ∈ keyPaths entries) (hsecond : names ++ [second] ∈ keyPaths entries)
    (hlt : first < second) : ∃ before w after,
      places entries = before ++ (names ++ [second], w) :: after ∧
      (∃ v, (names ++ [first], v) ∈ before) ∧ ∀ e ∈ before, ¬ names ++ [second] <+: e.1 := by
  obtain ⟨v, hv⟩ := mem_keyPaths.mp hfirst
  obtain ⟨w, hw⟩ := mem_keyPaths.mp hsecond
  obtain ⟨before, after, hsplit⟩ := List.append_of_mem hw
  have hpairs := pairwise_keyPaths entries h
  rw [← map_places, hsplit, List.map_append, List.map_cons] at hpairs
  obtain ⟨-, hafter, hbefore⟩ := List.pairwise_append.mp hpairs
  have hless : names ++ [first] < names ++ [second] :=
    List.append_left_lt (List.cons_lt_cons_iff.mpr (.inl hlt))
  refine ⟨before, w, after, hsplit, ⟨v, ?_⟩, fun e he hstarts => ?_⟩
  · rw [hsplit, List.mem_append, List.mem_cons] at hv
    rcases hv with hv | heq | hv
    · exact hv
    · rw [(Prod.mk.inj heq).1] at hless
      exact absurd hless (List.lt_irrefl _)
    · have hgreater := (List.pairwise_cons.mp hafter).1 _ (List.mem_map_of_mem (f := (·.1)) hv)
      exact absurd (List.lt_trans hless hgreater) (List.lt_irrefl _)
  · have hearlier := hbefore _ (List.mem_map_of_mem (f := (·.1)) he) _ List.mem_cons_self
    exact absurd hearlier (List.not_lt.mpr hstarts.le)

end TemplateEntries

/-- The entries of a template at every depth, each with the names that lead to it. -/
def Template.places (template : Template) : List (List String × TemplateValue) :=
  template.entries.places

namespace Definitions

open Demand

variable {schema : SchemaNode} {above p : ConfigPath} {names : List String} {name : String}

/-! ## 2. The paths of a template -/

/-- The path to which names lead from another, each a tag value where the grammar has a tag. -/
def pathBelow (schema : SchemaNode) (above : ConfigPath) (names : List String) : ConfigPath :=
  names.foldl (entryPath schema) above

/-- The last step of an entry of a template that is put below `above`. -/
def entryStep (schema : SchemaNode) (above : ConfigPath) (name : String) : Step :=
  .ofSegment (.under (schema.at? above) name)

theorem pathBelow_concat (schema : SchemaNode) (above : ConfigPath) (names : List String)
    (name : String) : pathBelow schema above (names ++ [name]) =
      (pathBelow schema above names).snoc (entryStep schema (pathBelow schema above names) name) := by
  rw [pathBelow, List.foldl_append]
  rfl

theorem literal_pathBelow (schema : SchemaNode) (above : ConfigPath) (names : List String) :
    (pathBelow schema above names).literal = above.literal ++ names := by
  induction names using List.reverseRecOn with
  | nil => exact (List.append_nil _).symm
  | append_singleton names name ih =>
    have hname : (entryStep schema (pathBelow schema above names) name).literal = name :=
      Segment.literal_under _ _
    rw [pathBelow_concat, ConfigPath.literal_snoc, ih, hname, List.append_assoc]

theorem pathBelow_inj {names' : List String}
    (h : pathBelow schema above names = pathBelow schema above names') : names = names' := by
  have hliteral := congrArg ConfigPath.literal h
  rwa [literal_pathBelow, literal_pathBelow, List.append_cancel_left_eq] at hliteral

theorem isRoot_pathBelow (h : names ≠ []) : (pathBelow schema above names).isRoot = false := by
  obtain ⟨names', name, rfl⟩ := (List.eq_nil_or_concat' names).resolve_left h
  rw [pathBelow_concat]
  exact ConfigPath.isRoot_snoc _ _

/-- On the way to a path below another are the way to that one and the paths between the two. -/
theorem mem_way_pathBelow : p ∈ (pathBelow schema above names).way ↔
    p ∈ above.way ∨ ∃ first, first ≠ [] ∧ first <+: names ∧ p = pathBelow schema above first := by
  induction names using List.reverseRecOn with
  | nil => 
    refine ⟨.inl, ?_⟩
    rintro (hp | ⟨first, hne, hstarts, -⟩)
    · exact hp
    · exact absurd (List.prefix_nil.mp hstarts) hne
  | append_singleton names name ih =>
    rw [pathBelow_concat, ConfigPath.way_snoc, List.mem_append, List.mem_singleton, ih,
      ← pathBelow_concat]
    constructor
    · rintro ((hp | ⟨first, hne, hstarts, rfl⟩) | rfl)
      · exact .inl hp
      · exact .inr ⟨first, hne, hstarts.trans (List.prefix_append names [name]), rfl⟩
      · exact .inr ⟨_, by simp, List.prefix_refl _, rfl⟩
    · rintro (hp | ⟨first, hne, hstarts, rfl⟩)
      · exact .inl (.inl hp)
      · rcases List.prefix_concat_iff.mp hstarts with rfl | hstarts
        · exact .inr rfl
        · exact .inl (.inr ⟨first, hne, hstarts, rfl⟩)

/-- What is above an entry is on the way to the path below which the template is put, or a node. -/
theorem way_place_cases {template : Template} {value : TemplateValue}
    (hplace : (names, value) ∈ template.places) (hp : p ∈ (pathBelow schema above names).way)
    (hother : p ≠ pathBelow schema above names) : p ∈ above.way ∨
      ∃ first v, v.hasEntries = true ∧ (first, v) ∈ template.places ∧
        p = pathBelow schema above first := by
  refine (mem_way_pathBelow.mp hp).imp_right ?_
  rintro ⟨first, hfirst, hstarts, rfl⟩
  rcases TemplateEntries.exists_node_above _ hplace hstarts hfirst with rfl | ⟨v, hv, hvplace⟩
  · exact absurd rfl hother
  · exact ⟨first, v, hv, hvplace, rfl⟩

/-- The paths that a template put below another wants: those on the way there and those of its
entries. -/
def templatePaths (t : Definitions) (above : ConfigPath) (template : Template) : List ConfigPath :=
  above.way ++ template.keyPaths.map (pathBelow t.schema above)

theorem length_literal_of_mem_way (h : p ∈ above.way) : p.literal.length ≤ above.literal.length := by
  rw [ConfigPath.literal, ConfigPath.literal, List.length_map, List.length_map]
  exact (ConfigPath.mem_way.mp h).2.length_le

theorem pathBelow_not_mem_way (h : names ≠ []) : pathBelow schema above names ∉ above.way := by
  intro hmem
  have hlength := length_literal_of_mem_way hmem
  rw [literal_pathBelow, List.length_append] at hlength
  exact h (List.length_eq_zero_iff.mp (by omega))

/-! ## 3. The demands of a template -/

/-- The demand for an entry of a template that is put below `above`. -/
def placeDemand (schema : SchemaNode) (above : ConfigPath) (e : List String × TemplateValue) :
    Demand where
  path := pathBelow schema above e.1
  value := e.2.value?.getD .empty

mutual

theorem insertEntry_eq (schema : SchemaNode) (path : ConfigPath) : (value : TemplateValue) →
    insertEntry schema path value =
      Demand.editAll ((TemplateEntries.placesFrom value).map (placeDemand schema path))
  | .scalar _ => (bind_pure_unit).symm
  | .list _ => (bind_pure_unit).symm
  | .node entries => by
    rw [insertEntry, insertEntries_eq schema path entries]
    rfl
  | .presence => (bind_pure_unit).symm

/-- To insert entries is to demand each of them in order. -/
theorem insertEntries_eq (schema : SchemaNode) (above : ConfigPath) : (entries : TemplateEntries) →
    insertEntries schema above entries =
      Demand.editAll ((TemplateEntries.places entries).map (placeDemand schema above))
  | [] => rfl
  | (name, value) :: rest => by
    rw [insertEntries, TemplateEntries.places, List.map_append, Demand.editAll_append,
      insertEntry_eq schema _ value, insertEntries_eq schema above rest, List.map_map]
    rfl

end

/-! ## 4. What refuses a template -/

/-- Among the paths of a template, and with the definitions of the tree, a key belongs to paths of
the same words. -/
structure Unambiguous (t : Definitions) (above : ConfigPath) (template : Template) : Prop where
  distinct : ∀ p ∈ t.templatePaths above template, ∀ q ∈ t.templatePaths above template,
    p.key = q.key → p.literal = q.literal
  own : ∀ p ∈ t.templatePaths above template, ∀ d ∈ t.walk,
    d.key = p.key → d.fullPath.literal = p.literal

/-- A tree accepts a template where no value is above it, no definitions are below a value that it
gives, and no value is where it has entries below. -/
structure Accepts (t : Definitions) (above : ConfigPath) (template : Template) : Prop where
  way : ∀ p ∈ above.way, t.hasValue p.key = false
  values : ∀ e ∈ template.places, e.2.value?.isSome = true →
    t.hasChildren (pathBelow t.schema above e.1).key = false
  nodes : ∀ e ∈ template.places, e.2.hasEntries = true →
    t.hasValue (pathBelow t.schema above e.1).key = false

/-- The demands of a template that is put below a path. -/
def templateDemands (t : Definitions) (above : ConfigPath) (template : Template) : List Demand :=
  template.places.map (placeDemand t.schema above)

theorem insertTemplate_eq (t : Definitions) (above : ConfigPath) (template : Template) :
    insertTemplate above template t = Demand.editAll (t.templateDemands above template) t := by
  rw [insertTemplate, get_bind, insertEntries_eq]
  rfl

section Template

variable {t t' : Definitions} {template : Template} {value : TemplateValue}

theorem mem_templateDemands {d : Demand} : d ∈ t.templateDemands above template ↔
    ∃ names value, (names, value) ∈ template.places ∧
      d = placeDemand t.schema above (names, value) := by
  simp [templateDemands, eq_comm]

theorem placeDemand_mem (h : (names, value) ∈ template.places) :
    placeDemand t.schema above (names, value) ∈ t.templateDemands above template :=
  List.mem_map_of_mem h

theorem pathBelow_mem_ways (h : (names, value) ∈ template.places) :
    pathBelow t.schema above names ∈ ways (t.templateDemands above template) :=
  mem_ways.mpr ⟨_, placeDemand_mem h,
    ConfigPath.mem_way_self (isRoot_pathBelow (TemplateEntries.ne_nil_of_mem_places h))⟩

theorem mem_templatePaths : p ∈ t.templatePaths above template ↔
    p ∈ above.way ∨ ∃ names ∈ template.keyPaths, p = pathBelow t.schema above names := by
  simp [templatePaths, eq_comm]

/-- The paths of a template are those on the ways of its demands. -/
theorem mem_ways_templateDemands (hne : template.entries ≠ []) :
    p ∈ ways (t.templateDemands above template) ↔ p ∈ t.templatePaths above template := by
  rw [mem_ways, mem_templatePaths]
  constructor
  · rintro ⟨d, hd, hp⟩
    obtain ⟨names, value, hplace, rfl⟩ := mem_templateDemands.mp hd
    by_cases hself : p = pathBelow t.schema above names
    · exact .inr ⟨names, TemplateEntries.mem_keyPaths.mpr ⟨value, hplace⟩, hself⟩
    · refine (way_place_cases hplace hp hself).imp_right ?_
      rintro ⟨first, v, -, hv, rfl⟩
      exact ⟨first, TemplateEntries.mem_keyPaths.mpr ⟨v, hv⟩, rfl⟩
  · rintro (hp | ⟨names, hnames, rfl⟩)
    · obtain ⟨name, value, hplace⟩ := TemplateEntries.exists_mem_places hne
      exact ⟨_, placeDemand_mem hplace, mem_way_pathBelow.mpr (.inl hp)⟩
    · obtain ⟨value, hplace⟩ := TemplateEntries.mem_keyPaths.mp hnames
      exact mem_ways.mp (pathBelow_mem_ways hplace)

/-- Paths of a template that have the same words are the same. -/
theorem eq_of_mem_templatePaths {q : ConfigPath} (hp : p ∈ t.templatePaths above template)
    (hq : q ∈ t.templatePaths above template) (hliteral : p.literal = q.literal) : p = q := by
  have hlong : ∀ names ∈ template.keyPaths,
      above.literal.length < (pathBelow t.schema above names).literal.length := by
    intro names hnames
    have := List.length_pos_of_ne_nil (TemplateEntries.ne_nil_of_mem_keyPaths hnames)
    rw [literal_pathBelow, List.length_append]
    omega
  have hlength := congrArg List.length hliteral
  rcases mem_templatePaths.mp hp with hp | ⟨names, hnames, rfl⟩ <;>
    rcases mem_templatePaths.mp hq with hq | ⟨names', hnames', rfl⟩
  · rw [ConfigPath.literal, ConfigPath.literal, List.length_map, List.length_map] at hlength
    refine ConfigPath.eq_of_steps ?_
    exact (List.prefix_of_prefix_length_le (ConfigPath.mem_way.mp hp).2 (ConfigPath.mem_way.mp hq).2
      hlength.le).eq_of_length hlength
  · have := length_literal_of_mem_way hp
    have := hlong names' hnames'
    omega
  · have := length_literal_of_mem_way hq
    have := hlong names hnames
    omega
  · rw [literal_pathBelow, literal_pathBelow, List.append_cancel_left_eq] at hliteral
    rw [hliteral]

section Unambiguous

variable (hne : template.entries ≠ []) (hclear : t.Unambiguous above template)
include hne hclear

theorem onePath_templateDemands : OnePath (t.templateDemands above template) := by
  intro p hp q hq hkey
  rw [mem_ways_templateDemands hne] at hp hq
  exact eq_of_mem_templatePaths hp hq (hclear.distinct p hp q hq hkey)

/-- The value that is asked for at the path of an entry is that of the entry. -/
theorem latest?_place (h : (names, value) ∈ template.places) :
    latest? (t.templateDemands above template) (pathBelow t.schema above names).key = value.value? := by
  have hmem : placeDemand t.schema above (names, value) ∈ t.templateDemands above template :=
    placeDemand_mem h
  have hlatest := latest?_of_unique hmem fun d hd hkey => by
    obtain ⟨names', value', h', rfl⟩ := mem_templateDemands.mp hd
    have hpath := onePath_templateDemands hne hclear _ (pathBelow_mem_ways h') _ (pathBelow_mem_ways h)
      hkey
    obtain rfl := pathBelow_inj hpath
    rw [TemplateEntries.eq_of_mem_places template.ordered h' h]
  refine hlatest.trans ?_
  cases value <;> simp [placeDemand, TemplateValue.value?]

/-- No value is asked for on the way to the path below which a template is put. -/
theorem latest?_above (hp : p ∈ above.way) :
    latest? (t.templateDemands above template) p.key = none := by
  cases hlatest : latest? (t.templateDemands above template) p.key with
  | none => rfl
  | some v =>
    obtain ⟨-, d, hd, hkey, -⟩ := of_latest?_eq_some hlatest
    obtain ⟨names, value, hplace, rfl⟩ := mem_templateDemands.mp hd
    have hway : p ∈ ways (t.templateDemands above template) :=
      (mem_ways_templateDemands hne).mpr (mem_templatePaths.mpr (.inl hp))
    obtain rfl : pathBelow t.schema above names = p :=
      onePath_templateDemands hne hclear _ (pathBelow_mem_ways hplace) _ hway hkey
    exact absurd hp (pathBelow_not_mem_way (TemplateEntries.ne_nil_of_mem_places hplace))

theorem compatible_templateDemands : Compatible (t.templateDemands above template) := by
  intro d hd
  obtain ⟨names, value, hplace, rfl⟩ := mem_templateDemands.mp hd
  refine ⟨isRoot_pathBelow (TemplateEntries.ne_nil_of_mem_places hplace), fun p hp hother => ?_⟩
  rcases way_place_cases hplace hp hother with hp | ⟨first, v, hv, hvplace, rfl⟩
  · exact latest?_above hne hclear hp
  · rw [latest?_place hne hclear hvplace, TemplateValue.value?_of_hasEntries hv]

theorem fitting_templateDemands (ht : Indexed t) : t.Fitting (t.templateDemands above template) where
  one := onePath_templateDemands hne hclear
  compatible := compatible_templateDemands hne hclear
  own d hd p hp x hx := by
    obtain ⟨-, -, -, hkey⟩ := ht.get?_eq_some.mp hx
    have hway := (mem_ways_templateDemands hne).mp (mem_ways.mpr ⟨d, hd, hp⟩)
    exact hclear.own p hway x (ht.mem_walk.mpr (by rwa [hkey])) hkey

end Unambiguous

/-- A tree admits each demand of a template exactly when it accepts the template. -/
theorem admits_iff_accepts (hne : template.entries ≠ []) :
    (∀ d ∈ t.templateDemands above template, t.Admits d) ↔ t.Accepts above template := by
  constructor
  · intro h
    have hadmits : ∀ {names value}, (names, value) ∈ template.places →
        t.Admits (placeDemand t.schema above (names, value)) := fun hplace =>
      h _ (placeDemand_mem hplace)
    refine ⟨fun p hp => ?_, ?_, ?_⟩
    · obtain ⟨name, value, hplace⟩ := TemplateEntries.exists_mem_places hne
      refine (hadmits hplace).above p (ConfigPath.mem_way_dropLast.mpr ?_)
      refine ⟨mem_way_pathBelow.mpr (.inl hp), ?_⟩
      rintro rfl
      exact pathBelow_not_mem_way (List.cons_ne_nil name []) hp
    · rintro ⟨names, value⟩ hplace hvalue
      exact (hadmits hplace).below (TemplateValue.getD_value?_ne_empty.mpr hvalue)
    · rintro ⟨names, value⟩ hplace hentries
      obtain ⟨name, v, hbelow⟩ := TemplateEntries.exists_below _ hplace hentries
      refine (hadmits hbelow).above _ (ConfigPath.mem_way_dropLast.mpr ⟨?_, ?_⟩)
      · exact mem_way_pathBelow.mpr (.inr ⟨names, TemplateEntries.ne_nil_of_mem_places hplace,
          List.prefix_append names [name], rfl⟩)
      · intro heq
        have := congrArg List.length (pathBelow_inj heq)
        simp at this
  · intro h d hd
    obtain ⟨names, value, hplace, rfl⟩ := mem_templateDemands.mp hd
    refine ⟨fun p hp => ?_, fun hvalue => ?_⟩
    · obtain ⟨hway, hother⟩ := ConfigPath.mem_way_dropLast.mp hp
      rcases way_place_cases hplace hway hother with hway | ⟨first, v, hv, hvplace, rfl⟩
      · exact h.way p hway
      · exact h.nodes _ hvplace hv
    · exact h.values _ hplace (TemplateValue.getD_value?_ne_empty.mp hvalue)

end Template

/-! ## 5. A template laid over a tree -/

/-- The tree after a template has been laid over it. -/
structure Overlays (t : Definitions) (above : ConfigPath) (template : Template) (t' : Definitions) :
    Prop where
  indexed : Indexed t'
  schema : t'.schema = t.schema
  policy : t'.policy = t.policy
  /-- At the path of each entry is the value that the entry gives, or else the one that was there if
  there was one. -/
  value : ∀ e ∈ template.places, t'.value? (pathBelow t.schema above e.1).key =
    some (e.2.value?.getD ((t.value? (pathBelow t.schema above e.1).key).getD .empty))
  /-- A definition that was there has the value that is given for it and is as it was otherwise. -/
  set : ∀ e ∈ template.places, ∀ v ∈ e.2.value?, ∀ l f, t.face? l = some f →
    f.key = (pathBelow t.schema above e.1).key → t'.face? l = some { f with value := v }
  /-- A definition for which no value is given is as it was. -/
  unchanged : ∀ l f, t.face? l = some f → (∀ e ∈ template.places, e.2.value?.isSome = true →
    f.key ≠ (pathBelow t.schema above e.1).key) → t'.face? l = some f
  index_kept : ∀ k l, t.index.get? k = some l → t'.index.get? k = some l
  binding_kept : ∀ k, t.contains k = true → t'.binding? k = t.binding? k
  /-- There is nothing besides what was there, the way to the path, and the entries. -/
  contains : ∀ k, t'.contains k = true ↔
    t.contains k = true ∨ ∃ p ∈ t.templatePaths above template, p.key = k
  /-- What was missing on the way has been made without a value. -/
  made_above : ∀ p step, p.snoc step ∈ above.way → t.contains (p.snoc step).key = false →
    Appended t p step .empty t'
  /-- What was missing of the entries has been made with the values that they give. -/
  made_below : ∀ names name value, (names ++ [name], value) ∈ template.places →
    t.contains (pathBelow t.schema above (names ++ [name])).key = false →
    Appended t (pathBelow t.schema above names)
      (entryStep t.schema (pathBelow t.schema above names) name) (value.value?.getD .empty) t'
  /-- What has been made next to each other ascends by name. -/
  order : ∀ names first second, names ++ [first] ∈ template.keyPaths →
    names ++ [second] ∈ template.keyPaths → first < second →
    t.contains (pathBelow t.schema above (names ++ [first])).key = false →
    t.contains (pathBelow t.schema above (names ++ [second])).key = false →
    ∃ loc i j, t'.index.get? (pathBelow t.schema above (names ++ [first])).key = some (loc ++ [i]) ∧
      t'.index.get? (pathBelow t.schema above (names ++ [second])).key = some (loc ++ [j]) ∧ i < j

section Overlays

variable {t t' : Definitions} {template : Template} (ht : Indexed t) (hpolicy : t.policy = .warn)
  (hne : template.entries ≠ []) (hclear : t.Unambiguous above template)
include ht hpolicy hne hclear

/-- Of two entries next to each other, the one that is first by name is made first. -/
theorem insertTemplate_order (hrun : insertTemplate above template t = .ok () t')
    {first second : String} (hfirst : names ++ [first] ∈ template.keyPaths)
    (hsecond : names ++ [second] ∈ template.keyPaths) (hlt : first < second)
    (hmissing : t.contains (pathBelow t.schema above (names ++ [first])).key = false)
    (hmissing' : t.contains (pathBelow t.schema above (names ++ [second])).key = false) :
    ∃ loc i j, t'.index.get? (pathBelow t.schema above (names ++ [first])).key = some (loc ++ [i]) ∧
      t'.index.get? (pathBelow t.schema above (names ++ [second])).key = some (loc ++ [j]) ∧ i < j := by
  have hone := onePath_templateDemands hne hclear
  have hfitting := fitting_templateDemands hne hclear ht
  -- the demands are split where the later entry comes
  obtain ⟨before, w, after, hsplit, ⟨v, hplace⟩, hnothing⟩ :=
    TemplateEntries.exists_before template.ordered hfirst hsecond hlt
  have hdemands : t.templateDemands above template = before.map (placeDemand t.schema above) ++
      ((names ++ [second], w) :: after).map (placeDemand t.schema above) := by
    rw [templateDemands, Template.places, hsplit, List.map_append]
  rw [hdemands] at hfitting hone
  rw [insertTemplate_eq, hdemands] at hrun
  have hself : ∀ name, pathBelow t.schema above (names ++ [name]) ∈
      (pathBelow t.schema above (names ++ [name])).way := fun name =>
    ConfigPath.mem_way_self (isRoot_pathBelow (by simp))
  have hway : pathBelow t.schema above (names ++ [first]) ∈
      ways (before.map (placeDemand t.schema above)) :=
    mem_ways.mpr ⟨_, List.mem_map_of_mem hplace, hself first⟩
  have hway' : pathBelow t.schema above (names ++ [second]) ∈
      ways (((names ++ [second], w) :: after).map (placeDemand t.schema above)) :=
    mem_ways.mpr ⟨_, List.mem_cons_self, hself second⟩
  have hlater : ∀ q ∈ ways (before.map (placeDemand t.schema above)),
      q.key ≠ (pathBelow t.schema above (names ++ [second])).key := by
    intro q hq hkey
    rw [OnePath, ways_append] at hone
    obtain rfl := hone q (List.mem_append_left _ hq) _ (List.mem_append_right _ hway') hkey
    obtain ⟨d, hd, hq⟩ := mem_ways.mp hq
    obtain ⟨e, he, rfl⟩ := List.mem_map.mp hd
    rcases mem_way_pathBelow.mp hq with habove | ⟨names', -, hstarts, heq⟩
    · exact pathBelow_not_mem_way (by simp) habove
    · obtain rfl := pathBelow_inj heq
      exact hnothing e he hstarts
  simp only [pathBelow_concat] at hway hway' hmissing hmissing' hlater ⊢
  exact editAll_order ht hpolicy hfitting hrun hway hway' hmissing hmissing' hlater

/-- Demands of a template that are laid over a tree lay the template over it. -/
theorem Overlaid.overlays (h : Overlaid t (t.templateDemands above template) t')
    (hrun : insertTemplate above template t = .ok () t') : Overlays t above template t' := by
  constructor
  case value =>
    rintro ⟨names, value⟩ hplace
    rw [h.value?_of_mem_ways ht (pathBelow_mem_ways hplace), latest?_place hne hclear hplace]
  case set =>
    rintro ⟨names, value⟩ hplace v hv l f hf hkey
    rw [h.kept l f hf, hkey, latest?_place hne hclear hplace, show value.value? = some v from hv]
    rfl
  case unchanged =>
    intro l f hf hother
    have hnone : latest? (t.templateDemands above template) f.key = none := by
      cases hlatest : latest? (t.templateDemands above template) f.key with
      | none => rfl
      | some v =>
        obtain ⟨-, d, hd, hkey, -⟩ := of_latest?_eq_some hlatest
        obtain ⟨names, value, hplace, rfl⟩ := mem_templateDemands.mp hd
        have hvalue : value.value? = some v := by
          rw [← latest?_place hne hclear hplace, ← hlatest]
          exact congrArg _ hkey
        exact absurd hkey.symm (hother _ hplace (by rw [hvalue]; rfl))
    rw [h.kept l f hf, hnone, Option.getD_none, Definition.mk_fields]
  case contains =>
    intro k
    simp only [h.contains, mem_ways_templateDemands hne]
  case made_above =>
    intro p step hp hmissing
    have hmade := h.made p step
      ((mem_ways_templateDemands hne).mpr (mem_templatePaths.mpr (.inl hp))) hmissing
    rwa [latest?_above hne hclear hp] at hmade
  case made_below =>
    intro names name value hplace hmissing
    have hway : pathBelow t.schema above (names ++ [name]) ∈
        ways (t.templateDemands above template) := pathBelow_mem_ways hplace
    have hlatest := latest?_place hne hclear hplace
    rw [pathBelow_concat] at hway hmissing hlatest
    have hmade := h.made _ _ hway hmissing
    rwa [hlatest] at hmade
  case order =>
    intro names first second
    exact insertTemplate_order ht hpolicy hne hclear hrun
  all_goals first
    | exact h.indexed | exact h.schema | exact h.policy | exact h.index_kept | exact h.binding_kept

/-- A template is inserted exactly when the tree accepts it, and is then laid over the tree. -/
theorem insertTemplate_outcome :
    ((∃ t', insertTemplate above template t = .ok () t') ↔ t.Accepts above template) ∧
      ∀ t', insertTemplate above template t = .ok () t' → Overlays t above template t' := by
  have hfitting : t.Fitting ([] ++ t.templateDemands above template) :=
    fitting_templateDemands hne hclear ht
  obtain ⟨hiff, hlaid⟩ := (Overlaid.refl ht).editAll ht hpolicy hfitting
  rw [← insertTemplate_eq, admits_iff_accepts hne] at hiff
  refine ⟨hiff, fun t' hrun => Overlaid.overlays ht hpolicy hne hclear (hlaid t' ?_) hrun⟩
  rwa [← insertTemplate_eq]

end Overlays

/-- **A template is laid over the tree exactly as it is.** After any calls on a tree that lets
values be replaced, it is inserted unless a value is in its way or definitions are below one of its
values. Then the values are those that it gives, what is missing is made after what is there and in
the order of the names, and all else is left. -/
theorem insertTemplate_build (schema : SchemaNode) (calls : List Call) {above : ConfigPath}
    {template : Template} (hne : template.entries ≠ [])
    (hclear : (build schema .warn calls).Unambiguous above template) :
    ((∃ t', insertTemplate above template (build schema .warn calls) = .ok () t') ↔
        (build schema .warn calls).Accepts above template) ∧
      ∀ t', insertTemplate above template (build schema .warn calls) = .ok () t' →
        Overlays (build schema .warn calls) above template t' := by
  have hpolicy : (build schema .warn calls).policy = .warn :=
    (changes_build schema .warn calls).policy_eq
  exact insertTemplate_outcome (indexed_build schema .warn calls) hpolicy hne hclear

/-- Calls that put a value and a container below `a`. -/
def valueBesideContainer : List Call :=
  [.insertValue (.ofSegments [.fixed "a", .fixed "b"]) "1",
    .insertValue (.ofSegments [.fixed "a", .fixed "d", .fixed "e"]) "2"]

/-- Another value for `b`, and entries below `c` one of which is a name only. -/
def valueAndEntries : Template :=
  .ofEntries [("c", .node [("x", .list [.integer 3, .flag true]), ("y", .presence)]),
    ("b", .scalar (.text "9"))]

/-- A value for `d`. -/
def valueForContainer : Template := .ofEntries [("d", .scalar (.text "9"))]

theorem insertTemplate_below_a :
    let t := build default .warn valueBesideContainer
    (∃ t', insertTemplate (.ofSegments [.fixed "a"]) valueAndEntries t = .ok () t' ∧
      t'.value? "a/b" = some (.single "9") ∧ t'.value? "a/c" = some .empty ∧
      t'.value? "a/c/x" = some (.multi ["3", "true"]) ∧ t'.value? "a/c/y" = some .empty ∧
      t'.contains "a/c/z" = false) ∧
    ¬ ∃ t', insertTemplate (.ofSegments [.fixed "a"]) valueForContainer t = .ok () t' := by
  constructor
  · obtain ⟨hiff, hlaid⟩ := @insertTemplate_build default valueBesideContainer
      (.ofSegments [.fixed "a"]) valueAndEntries (by decide +kernel)
      ⟨by decide +kernel, by decide +kernel⟩
    obtain ⟨t', hrun⟩ := hiff.mpr ⟨by decide +kernel, by decide +kernel, by decide +kernel⟩
    have h := hlaid t' hrun
    have hvalue := h.value
    rw [show valueAndEntries.places = [(["b"], .scalar (.text "9")),
        (["c"], .node [("x", .list [.integer 3, .flag true]), ("y", .presence)]),
        (["c", "x"], .list [.integer 3, .flag true]), (["c", "y"], .presence)] from rfl] at hvalue
    simp only [List.forall_mem_cons] at hvalue
    obtain ⟨hb, hc, hx, hy, -⟩ := hvalue
    refine ⟨t', hrun, hb.trans (by decide +kernel), hc.trans (by decide +kernel),
      hx.trans (by decide +kernel), hy.trans (by decide +kernel), ?_⟩
    rw [← Bool.not_eq_true, h.contains]
    decide +kernel
  · obtain ⟨hiff, -⟩ := @insertTemplate_build default valueBesideContainer
      (.ofSegments [.fixed "a"]) valueForContainer (by decide +kernel)
      ⟨by decide +kernel, by decide +kernel⟩
    rw [hiff]
    intro haccepts
    have hvalues := haccepts.values
    revert hvalues
    decide +kernel

end Definitions

end RouterConfig
