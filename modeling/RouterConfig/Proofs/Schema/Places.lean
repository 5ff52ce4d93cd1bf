/-
RouterConfig.Proofs.Schema.Places — the nodes of a grammar and the names
that lead to them.

`node.Leads names target` goes down from a node, each name being that of a
child. Where no two children of a node have one name (`Distinct`), names
lead to one node at most, and a look-up finds it (`find?_eq_some_iff`). The
places of a grammar are the names that lead to its nodes, and there are as
many of them as nodes (`count_eq_ncard`).
-/
import Mathlib.Data.List.Nodup
import Mathlib.Data.Set.Card
import RouterConfig.Schema.Node

namespace RouterConfig

/-- Where no two members have one key, a member is found by its key. -/
theorem find?_key_eq_some_iff {α : Type} {key : α → String} {l : List α}
    (hnodup : (l.map key).Nodup) {k : String} {a : α} :
    l.find? (fun b => key b == k) = some a ↔ a ∈ l ∧ key a = k := by
  constructor
  · intro hfind
    exact ⟨List.mem_of_find?_eq_some hfind, by simpa using List.find?_some hfind⟩
  · rintro ⟨hmem, rfl⟩
    cases hfind : l.find? fun b => key b == key a with
    | none =>
      have := List.find?_eq_none.mp hfind a hmem
      simp at this
    | some b =>
      have hkey : key b = key a := by simpa using List.find?_some hfind
      rw [List.inj_on_of_nodup_map hnodup (List.mem_of_find?_eq_some hfind) hmem hkey]

namespace SchemaNode

/-- The node with nothing below it. -/
def bare (node : SchemaNode) : SchemaNode := { node with children := [] }

theorem bare_eq_self {node : SchemaNode} (h : node.children = []) : node.bare = node := by
  cases node
  cases h
  rfl

/-! ## 1. Names that lead to a node -/

/-- The names lead down from a node to another, child by child. -/
inductive Leads : SchemaNode → List String → SchemaNode → Prop
  | here (node : SchemaNode) : Leads node [] node
  | step {node child target : SchemaNode} {names : List String} (mem : child ∈ node.children)
      (leads : Leads child names target) : Leads node (child.name :: names) target

variable {node target : SchemaNode} {name : String} {names : List String}

@[simp] theorem leads_nil : node.Leads [] target ↔ target = node := by
  constructor
  · rintro ⟨⟩
    rfl
  · rintro rfl
    exact .here _

theorem leads_cons : node.Leads (name :: names) target ↔
    ∃ child ∈ node.children, child.name = name ∧ child.Leads names target := by
  constructor
  · rintro ⟨⟩
    exact ⟨_, ‹_›, rfl, ‹_›⟩
  · rintro ⟨child, hmem, rfl, hleads⟩
    exact .step hmem hleads

/-- The last name that leads to a node is its own. -/
theorem Leads.name_eq (h : node.Leads (names ++ [name]) target) : target.name = name := by
  induction names generalizing node with
  | nil =>
    obtain ⟨child, -, rfl, hleads⟩ := leads_cons.mp h
    rw [leads_nil.mp hleads]
  | cons first rest ih =>
    obtain ⟨child, -, -, hleads⟩ := leads_cons.mp h
    exact ih hleads

/-! ## 2. Look-ups -/

/-- No node from this one down has two children of one name. -/
def Distinct (node : SchemaNode) : Prop :=
  ∀ names target, node.Leads names target → (target.children.map (·.name)).Nodup

theorem Distinct.child (h : node.Distinct) {child : SchemaNode} (hmem : child ∈ node.children) :
    child.Distinct :=
  fun names target hleads => h (child.name :: names) target (.step hmem hleads)

theorem Distinct.of_children (h : (node.children.map (·.name)).Nodup)
    (hbelow : ∀ child ∈ node.children, child.Distinct) : node.Distinct := by
  intro names target hleads
  cases hleads with
  | here => exact h
  | step hmem hrest => exact hbelow _ hmem _ _ hrest

/-- A child is found by its name. -/
theorem Distinct.child?_eq_some_iff (h : node.Distinct) {child : SchemaNode} :
    node.child? name = some child ↔ child ∈ node.children ∧ child.name = name :=
  find?_key_eq_some_iff (h [] node (.here node))

/-- Where names are distinct, names lead where the look-up goes. -/
theorem Distinct.descend?_eq_some_iff (h : node.Distinct) :
    node.descend? names = some target ↔ node.Leads names target := by
  induction names generalizing node with
  | nil => simp [descend?, eq_comm]
  | cons name rest ih =>
    rw [descend?, Option.bind_eq_some_iff, leads_cons]
    constructor
    · rintro ⟨child, hchild, hdescend⟩
      obtain ⟨hmem, hname⟩ := h.child?_eq_some_iff.mp hchild
      exact ⟨child, hmem, hname, (ih (h.child hmem)).mp hdescend⟩
    · rintro ⟨child, hmem, hname, hleads⟩
      exact ⟨child, h.child?_eq_some_iff.mpr ⟨hmem, hname⟩, (ih (h.child hmem)).mpr hleads⟩

theorem Distinct.find?_eq_some_iff (h : node.Distinct) (hnames : names ≠ []) :
    node.find? names = some target ↔ node.Leads names target := by
  rw [find?, if_neg (by simpa using hnames), h.descend?_eq_some_iff]

/-! ## 3. Counting nodes -/

mutual

/-- The names that lead to the nodes from this one down. -/
def places : SchemaNode → List (List String)
  | ⟨_, _, _, _, _, _, _, _, _, _, children⟩ => [] :: placesAll children

/-- The names that lead to the nodes of several trees. -/
def placesAll : List SchemaNode → List (List String)
  | [] => []
  | node :: rest => node.places.map (node.name :: ·) ++ placesAll rest

end

theorem places_eq (node : SchemaNode) : node.places = [] :: placesAll node.children := by
  cases node
  rfl

mutual

/-- There are as many places as nodes. -/
theorem length_places : (node : SchemaNode) → node.places.length = node.count
  | ⟨_, _, _, _, _, _, _, _, _, _, children⟩ => by
    rw [places, count, List.length_cons, length_placesAll children, Nat.add_comm]

theorem length_placesAll : (nodes : List SchemaNode) → (placesAll nodes).length = countAll nodes
  | [] => rfl
  | node :: rest => by
    rw [placesAll, countAll, List.length_append, List.length_map, length_places node,
      length_placesAll rest]

end

theorem mem_placesAll {nodes : List SchemaNode} :
    names ∈ placesAll nodes ↔ ∃ node ∈ nodes, ∃ rest ∈ node.places, names = node.name :: rest := by
  induction nodes with
  | nil => simp [placesAll]
  | cons node more ih =>
    rw [placesAll, List.mem_append, ih, List.mem_map]
    simp [eq_comm]

/-- The places are the names that lead to a node. -/
theorem mem_places : names ∈ node.places ↔ ∃ target, node.Leads names target := by
  induction names generalizing node with
  | nil => simp [places_eq]
  | cons name rest ih =>
    have hne : name :: rest ≠ [] := List.cons_ne_nil name rest
    rw [places_eq, List.mem_cons, or_iff_right hne, mem_placesAll]
    constructor
    · rintro ⟨child, hmem, rest', hrest, heq⟩
      obtain ⟨rfl, rfl⟩ := List.cons.inj heq
      obtain ⟨target, hleads⟩ := ih.mp hrest
      exact ⟨target, .step hmem hleads⟩
    · rintro ⟨target, hleads⟩
      obtain ⟨child, hmem, rfl, hchild⟩ := leads_cons.mp hleads
      exact ⟨child, hmem, rest, ih.mpr ⟨target, hchild⟩, rfl⟩

mutual

theorem nodup_places : (node : SchemaNode) → node.Distinct → node.places.Nodup
  | ⟨name, type, help, valueHelp, isTag, multi, path, allowed, expressions, constraints, children⟩,
      h => by
    rw [places, List.nodup_cons]
    refine ⟨?_, nodup_placesAll children (h [] _ (.here _)) fun child hmem => h.child hmem⟩
    rw [mem_placesAll]
    rintro ⟨child, -, rest, -, heq⟩
    cases heq

theorem nodup_placesAll : (nodes : List SchemaNode) → (nodes.map (·.name)).Nodup →
    (∀ node ∈ nodes, node.Distinct) → (placesAll nodes).Nodup
  | [], _, _ => List.nodup_nil
  | node :: more, hnames, h => by
    rw [List.map_cons, List.nodup_cons] at hnames
    rw [placesAll, List.nodup_append]
    refine ⟨?_, nodup_placesAll more hnames.2 fun other hmem => h other (by simp [hmem]), ?_⟩
    · exact (nodup_places node (h node (by simp))).map fun _ _ heq => (List.cons.inj heq).2
    · -- names of different trees begin with different names
      rintro p hp q hq rfl
      obtain ⟨rest, -, rfl⟩ := List.mem_map.mp hp
      obtain ⟨other, hmem, rest', -, heq⟩ := mem_placesAll.mp hq
      rw [(List.cons.inj heq).1] at hnames
      exact hnames.1 (List.mem_map_of_mem hmem)

end

/-- There are as many nodes as names that lead to one. -/
theorem Distinct.count_eq_ncard (h : node.Distinct) :
    node.count = {names | ∃ target, node.Leads names target}.ncard := by
  have hset : {names | ∃ target, node.Leads names target} = ↑node.places.toFinset := by
    ext names
    simp [mem_places]
  rw [hset, Set.ncard_coe_finset, List.toFinset_card_of_nodup (nodup_places node h), length_places]

end SchemaNode

end RouterConfig
