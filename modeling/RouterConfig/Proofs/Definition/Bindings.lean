/-
RouterConfig.Proofs.Definition.Bindings — the grammar nodes of a tree's
definitions.

`boundTo_build`: a tree that calls make over a grammar read from a directory
tree is `BoundTo` it. A definition has a grammar node exactly when the names
of its path lead to one, and has that node (`NodeAt`); so it is for the node
of the definition above. The node at a key is that of the definition under
the key.

## How the proof goes

A definition gets its grammar nodes when it is made, from the path under
which it is made, and no later change touches them or the path
(`Assigned.change`). So they are those that a look-up in the grammar gives
(`assigned_build`). What a look-up gives is told by `Schema.Mirrors`: in a
grammar that was read, no two children of a node have one name, and the path
of a node joins the names that lead to it (`nodeAt`).

## Side conditions

The listing of the directory tree is sound: no directory holds two entries
of one name. The calls may fail, and the policy is any. Trees that a merge
made are not spoken of; they keep the nodes of the two trees, which may have
other grammars.
-/
import RouterConfig.Proofs.Definition.Consistency
import RouterConfig.Proofs.Definition.Frame
import RouterConfig.Proofs.Schema.Mirror

namespace RouterConfig

namespace Definitions

/-! ## 1. Nodes are those of the paths -/

/-- Each definition has the grammar nodes of its path and of the path above it. -/
def Assigned (t : Definitions) : Prop :=
  ∀ l f, t.face? l = some f →
    f.node = t.schema.at? f.fullPath ∧ f.parentNode = t.schema.at? f.parent

theorem assigned_new (schema : SchemaNode) (policy : DuplicatePolicy) :
    Assigned (new schema policy) := by
  intro l f hf
  obtain ⟨d, hd, -⟩ := face?_eq_some.mp hf
  have hmem : d ∈ (new schema policy).walk := Definition.mem_walkAll.mpr ⟨l, hd⟩
  cases hmem

/-- A change gives the new definition the nodes of its paths, and leaves the others theirs. -/
theorem Assigned.change {P : ConfigPath → Prop} {t t' : Definitions} (ht : Assigned t)
    (hc : Change P t t') : Assigned t' := by
  have hschema : t'.schema = t.schema := Changes.schema_eq (.single hc)
  rw [Assigned, hschema]
  exact hc.forall_face (fun _ _ _ => ⟨rfl, rfl⟩) (fun _ _ _ h => h) ht

theorem Assigned.changes {P : ConfigPath → Prop} {t t' : Definitions} (ht : Assigned t)
    (hc : Changes P t t') : Assigned t' := by
  induction hc with
  | refl => exact ht
  | tail _ hstep ih => exact ih.change hstep

theorem schema_build (schema : SchemaNode) (policy : DuplicatePolicy) (calls : List Call) :
    (build schema policy calls).schema = schema :=
  (changes_build schema policy calls).schema_eq

/-- The definitions of a tree made by calls have the nodes of their paths. -/
theorem assigned_build (schema : SchemaNode) (policy : DuplicatePolicy) (calls : List Call)
    {d : Definition} (hd : d ∈ (build schema policy calls).walk) :
    d.node = schema.at? d.fullPath ∧ d.parentNode = schema.at? d.parent := by
  obtain ⟨l, hl⟩ := Definition.mem_walkAll.mp hd
  have := (assigned_new schema policy).changes (changes_build schema policy calls) l d.bare
    (face?_of_at? hl)
  rwa [schema_build] at this

/-- The node at a key is that of the definition under the key. -/
theorem Indexed.binding?_eq {t : Definitions} (h : Indexed t) (k : String) :
    t.binding? k = (t.get? k).bind (·.node) := by
  rw [h.binding, get?]
  cases t.index.get? k with
  | none => rfl
  | some l =>
    rw [Option.bind_some, Option.bind_some, face?, Definition.face?, ← at?]
    cases t.at? l <;> rfl

/-! ## 2. Nodes of a grammar that was read -/

/-- The node, if there is one, is that of the grammar at a path. -/
structure NodeAt (schema : SchemaNode) (path : ConfigPath) (node : Option SchemaNode) : Prop where
  exists_iff : (∃ found, node = some found) ↔ ∃ target, schema.Leads path.schema target
  leads : ∀ found, node = some found → schema.Leads path.schema found
  path_eq : ∀ found, node = some found → found.path = path.schemaKey

/-- The definitions of a tree are bound to the grammar nodes of their paths, and the keys to those
of their definitions. -/
structure BoundTo (schema : SchemaNode) (t : Definitions) : Prop where
  node : ∀ d ∈ t.walk, NodeAt schema d.fullPath d.node
  parentNode_root : ∀ d ∈ t.roots, d.parentNode = some schema
  parentNode : ∀ d ∈ t.walk, d ∉ t.roots → NodeAt schema d.parent d.parentNode
  binding : ∀ k, t.binding? k = (t.get? k).bind (·.node)

/-- In a grammar that was read, a look-up finds the node to which the names of the path lead. -/
theorem nodeAt {entries : Listing} {schema : SchemaNode} (h : Schema.Mirrors entries schema)
    (path : ConfigPath) : NodeAt schema path (schema.at? path) where
  exists_iff := exists_congr fun _ => h.descend?_iff
  leads _ hfound := h.descend?_iff.mp hfound
  path_eq _ hfound := h.path_eq (h.descend?_iff.mp hfound)

/-- **The bindings of a tree are coherent**, whatever calls made it, also after calls
that failed. -/
theorem boundTo_build {disk : Disk} {place : String} {entries : Listing} {schema : SchemaNode}
    (hdisk : disk.readDirectory place = .ok entries) (hsound : Listing.Sound entries)
    (hschema : Schema.ofDisk disk place = .ok schema) (policy : DuplicatePolicy)
    (calls : List Call) : BoundTo schema (build schema policy calls) := by
  have hmirrors := Schema.mirrors_of_ofDisk hdisk hsound hschema
  have hindexed := indexed_build schema policy calls
  constructor
  case node =>
    intro d hd
    rw [(assigned_build schema policy calls hd).1]
    exact nodeAt hmirrors d.fullPath
  case parentNode_root =>
    intro d hd
    have hwalk : d ∈ (build schema policy calls).walk :=
      (Definition.sublist_walkAll _).subset hd
    have hroot := ConfigPath.isRoot_iff.mp ((hindexed.mem_roots hwalk).mp hd)
    rw [(assigned_build schema policy calls hwalk).2, hroot]
    rfl
  case parentNode =>
    intro d hd _
    rw [(assigned_build schema policy calls hd).2]
    exact nodeAt hmirrors d.parent
  case binding => exact hindexed.binding?_eq

/-- One path of the tree ends at a node of the grammar, the other at a name that the
grammar lacks. -/
theorem boundTo_build_twoServices :
    ∃ schema, Schema.ofDisk (Schema.twoServicesDisk "help: Service\n".toUTF8) "templates" = .ok schema ∧
      BoundTo schema (build schema .warn
        [.insertValue (.ofSegments [.fixed "dns", .fixed "port"]) "53",
          .ensure (.ofSegments [.fixed "dns", .fixed "host"])]) := by
  have hread := @Schema.readable_twoServices "help: Service\n".toUTF8 "help: Service\n" (by decide)
  obtain ⟨schema, hschema, -⟩ :=
    Schema.ofDisk_of_readable (Schema.readDirectory_twoServices _) (Schema.sound_twoServices _) hread
  exact ⟨schema, hschema,
    boundTo_build (Schema.readDirectory_twoServices _) (Schema.sound_twoServices _) hschema .warn _⟩

end Definitions

end RouterConfig
