/-
RouterConfig.Proofs.Definition.Demands — a tree as the answer to demands.

A demand asks for a definition at a path and may ask for a value there. A
list of demands says what a tree that meets them has under each key
(`Demand.content?`): the definitions on the way to all paths, each with the
last value asked for it. An edit for one more demand that succeeds makes
the tree meet that one too (`Meets.edit`). It does succeed where no value
is asked for above another path (`Demand.Compatible`, `Meets.edit_ok`), and
where each key means one path, demands that a tree has met are of this kind
(`Meets.compatible`).
-/
import RouterConfig.Proofs.Definition.Consistency
import RouterConfig.Proofs.Definition.Values

namespace RouterConfig

/-! ## 1. The way to a path -/

namespace ConfigPath

/-- The paths from one step below `done` on, along the steps. -/
def wayFrom (done : ConfigPath) : List Step → List ConfigPath
  | [] => []
  | step :: rest => done.snoc step :: (done.snoc step).wayFrom rest

/-- The paths on the way down to a path, that one included and the root not. -/
def way (path : ConfigPath) : List ConfigPath := root.wayFrom path.steps

theorem mem_wayFrom {done p : ConfigPath} {steps : List Step} :
    p ∈ done.wayFrom steps ↔ ∃ first, first ≠ [] ∧ first <+: steps ∧
      p.steps = done.steps ++ first := by
  induction steps generalizing done with
  | nil => simp +contextual [wayFrom]
  | cons step rest ih =>
    rw [wayFrom, List.mem_cons, ih]
    constructor
    · rintro (rfl | ⟨first, -, hstarts, hsteps⟩)
      · exact ⟨[step], by simp, by simp, rfl⟩
      · exact ⟨step :: first, by simp, by simpa using hstarts, by simp [hsteps]⟩
    · rintro ⟨first, hne, hstarts, hsteps⟩
      obtain ⟨s, more, rfl⟩ := List.exists_cons_of_ne_nil hne
      obtain ⟨rfl, hmore⟩ := List.cons_prefix_cons.mp hstarts
      cases more with
      | nil =>
        left
        cases p
        simpa [snoc] using hsteps
      | cons s' more' => exact .inr ⟨s' :: more', by simp, hmore, by simp [hsteps]⟩

theorem mem_way {path p : ConfigPath} :
    p ∈ path.way ↔ p.isRoot = false ∧ p.steps <+: path.steps := by
  rw [way, mem_wayFrom, isRoot, List.isEmpty_eq_false_iff]
  constructor
  · rintro ⟨first, hne, hstarts, hsteps⟩
    rw [show p.steps = first from hsteps]
    exact ⟨hne, hstarts⟩
  · rintro ⟨hne, hstarts⟩
    exact ⟨p.steps, hne, hstarts, rfl⟩

theorem mem_way_self {path : ConfigPath} (h : path.isRoot = false) : path ∈ path.way :=
  mem_way.mpr ⟨h, List.prefix_refl _⟩

theorem literal_snoc (path : ConfigPath) (step : Step) :
    (path.snoc step).literal = path.literal ++ [step.literal] := by
  simp [literal]

theorem isRoot_eq_of_literal {p q : ConfigPath} (h : p.literal = q.literal) :
    p.isRoot = q.isRoot := by
  have hempty := congrArg List.isEmpty h
  rwa [literal, literal, List.isEmpty_map, List.isEmpty_map] at hempty

/-- What is on the way to a path, but not the path itself, has a next step on the way. -/
theorem exists_snoc_mem_way {path p : ConfigPath} (h : p ∈ path.way) (hne : p ≠ path) :
    ∃ step, p.snoc step ∈ path.way := by
  obtain ⟨-, more, hmore⟩ := mem_way.mp h
  cases more with
  | nil =>
    refine absurd ?_ hne
    cases p
    cases path
    simpa using hmore
  | cons step rest => exact ⟨step, mem_way.mpr ⟨isRoot_snoc p step, rest, by simpa using hmore⟩⟩

/-- Paths of the same words have ways of the same words. -/
theorem exists_mem_way_of_literal {path path' p : ConfigPath}
    (h : path.literal = path'.literal) (hp : p ∈ path.way) :
    ∃ p' ∈ path'.way, p'.literal = p.literal := by
  obtain ⟨hroot, hstarts⟩ := mem_way.mp hp
  have htake : p.steps = path.steps.take p.steps.length := List.prefix_iff_eq_take.mp hstarts
  have hliteral : (⟨path'.steps.take p.steps.length⟩ : ConfigPath).literal = p.literal := by
    rw [literal, List.map_take, ← literal, ← h, literal, ← List.map_take, ← htake, ← literal]
  exact ⟨⟨path'.steps.take p.steps.length⟩,
    mem_way.mpr ⟨(isRoot_eq_of_literal hliteral).trans hroot, List.take_prefix _ _⟩, hliteral⟩

/-- What stands one step above a path is on the way to whatever that path is on the way to. -/
theorem exists_above {path p parent : ConfigPath} {name : String} (h : p ∈ path.way)
    (hroot : parent.isRoot = false) (hliteral : p.literal = parent.literal ++ [name]) :
    ∃ q ∈ path.way, q ≠ path ∧ q.literal = parent.literal := by
  obtain ⟨first, last, hsteps, hfirst, -⟩ := List.map_eq_append_iff.mp hliteral
  have hlast : last ≠ [] := by
    rintro rfl
    have := congrArg List.length hliteral
    rw [literal, hsteps, List.append_nil, hfirst] at this
    simp at this
  have hstarts := (mem_way.mp h).2
  rw [hsteps] at hstarts
  have habove : (⟨first⟩ : ConfigPath).isRoot = false := (isRoot_eq_of_literal hfirst).trans hroot
  refine ⟨⟨first⟩, mem_way.mpr ⟨habove, (List.prefix_append _ _).trans hstarts⟩, ?_, hfirst⟩
  rintro rfl
  have hlength : (first ++ last).length ≤ first.length := hstarts.length_le
  rw [List.length_append] at hlength
  exact hlast (List.length_eq_zero_iff.mp (by omega))

theorem key_eq_of_literal {p q : ConfigPath} (h : p.literal = q.literal) : p.key = q.key :=
  congrArg (Text.join "/") h

end ConfigPath

/-! ## 2. Demands -/

/-- A definition that is wanted at a path, with the value it is to have, or with any value if that
is empty. -/
structure Demand where
  path : ConfigPath
  value : Value := .empty
  deriving DecidableEq, Repr

namespace Demand

/-- The paths on the way to those of the demands. -/
def ways (ds : List Demand) : List ConfigPath := ds.flatMap (·.path.way)

/-- The last value that is wanted at a key. -/
def latest? (ds : List Demand) (k : String) : Option Value :=
  ds.reverse.findSome? fun d =>
    if d.value ≠ .empty ∧ d.path.key = k then some d.value else none

/-- What a tree that meets the demands has under a key: the words of a path, and a value. -/
def content? (ds : List Demand) (k : String) : Option (List String × Value) :=
  ((ways ds).find? (·.key == k)).map fun p => (p.literal, (latest? ds k).getD .empty)

/-- A key of the demands means one path. The paths on the way count: an edit looks each of them up,
and makes it, under its key. -/
def OneMeaning (ds : List Demand) : Prop :=
  ∀ p ∈ ways ds, ∀ q ∈ ways ds, p.key = q.key → p.literal = q.literal

instance (ds : List Demand) : Decidable (OneMeaning ds) :=
  inferInstanceAs (Decidable (∀ p ∈ ways ds, ∀ q ∈ ways ds, p.key = q.key → p.literal = q.literal))

/-- Nothing is wanted at the root path, and no value above another path. -/
def Compatible (ds : List Demand) : Prop :=
  ∀ d ∈ ds, d.path.isRoot = false ∧ ∀ p ∈ d.path.way, p ≠ d.path → latest? ds p.key = none

instance (ds : List Demand) : Decidable (Compatible ds) :=
  inferInstanceAs (Decidable (∀ d ∈ ds, d.path.isRoot = false ∧
    ∀ p ∈ d.path.way, p ≠ d.path → latest? ds p.key = none))

variable {ds es : List Demand} {d : Demand} {k : String}

theorem mem_ways {p : ConfigPath} : p ∈ ways ds ↔ ∃ d ∈ ds, p ∈ d.path.way := List.mem_flatMap

theorem ways_subset (hsub : ds ⊆ es) : ways ds ⊆ ways es := by
  intro p hp
  obtain ⟨d, hd, hway⟩ := mem_ways.mp hp
  exact mem_ways.mpr ⟨d, hsub hd, hway⟩

theorem OneMeaning.mono (h : OneMeaning es) (hsub : ds ⊆ es) : OneMeaning ds :=
  fun p hp q hq => h p (ways_subset hsub hp) q (ways_subset hsub hq)

/-- Where no word has a slash, each key means one path. -/
theorem OneMeaning.of_plain (h : ∀ d ∈ ds, ∀ w ∈ d.path.literal, '/' ∉ w.toList) :
    OneMeaning ds := by
  have hwords : ∀ p ∈ ways ds, p.literal ≠ [] ∧ ∀ w ∈ p.literal, '/' ∉ w.toList := by
    intro p hp
    obtain ⟨d, hd, hway⟩ := mem_ways.mp hp
    obtain ⟨hroot, hstarts⟩ := ConfigPath.mem_way.mp hway
    refine ⟨?_, fun w hw => h d hd w ((hstarts.map _).subset hw)⟩
    simpa [ConfigPath.literal, ConfigPath.isRoot] using hroot
  intro p hp q hq hkey
  obtain ⟨hne, hplain⟩ := hwords p hp
  obtain ⟨hne', hplain'⟩ := hwords q hq
  exact KeyWithin.eq_of_join hplain hplain' hne hne' hkey

theorem ways_append (ds es : List Demand) : ways (ds ++ es) = ways ds ++ ways es :=
  List.flatMap_append

theorem latest?_append (ds es : List Demand) (k : String) :
    latest? (ds ++ es) k = (latest? es k).or (latest? ds k) := by
  rw [latest?, List.reverse_append, List.findSome?_append]
  rfl

theorem latest?_singleton (d : Demand) (k : String) :
    latest? [d] k = if d.value ≠ .empty ∧ d.path.key = k then some d.value else none := by
  simp only [latest?, List.reverse_singleton, List.findSome?_singleton]

/-- The last value was wanted by some demand for the key, and is one. -/
theorem of_latest?_eq_some {v : Value} (h : latest? ds k = some v) :
    v ≠ .empty ∧ ∃ d ∈ ds, d.path.key = k ∧ d.value = v := by
  obtain ⟨d, hd, hvalue⟩ := List.exists_of_findSome?_eq_some h
  split at hvalue
  case isTrue hwanted =>
    obtain rfl := Option.some.inj hvalue
    exact ⟨hwanted.1, d, List.mem_reverse.mp hd, hwanted.2, rfl⟩
  case isFalse => cases hvalue

/-- Where a demand wants a value there is a last one. -/
theorem latest?_ne_none (hd : d ∈ ds) (hvalue : d.value ≠ .empty) :
    latest? ds d.path.key ≠ none := by
  intro hnone
  have := List.findSome?_eq_none_iff.mp hnone d (List.mem_reverse.mpr hd)
  simp [hvalue] at this

theorem latest?_eq_none_of_initial (hinitial : ds <+: es) (h : latest? es k = none) :
    latest? ds k = none := by
  obtain ⟨more, rfl⟩ := hinitial
  rw [latest?_append, Option.or_eq_none_iff] at h
  exact h.2

/-- Where nothing is wanted, no value is. -/
theorem latest?_eq_none_of_find? (hroot : ∀ d ∈ ds, d.path.isRoot = false)
    (h : (ways ds).find? (·.key == k) = none) : latest? ds k = none := by
  cases hlatest : latest? ds k with
  | none => rfl
  | some v =>
    obtain ⟨-, d, hd, rfl, -⟩ := of_latest?_eq_some hlatest
    have := List.find?_eq_none.mp h d.path
      (mem_ways.mpr ⟨d, hd, ConfigPath.mem_way_self (hroot d hd)⟩)
    simp at this

theorem content?_isSome_iff : (content? ds k).isSome = true ↔ ∃ p ∈ ways ds, p.key = k := by
  simp [content?, List.find?_isSome]

/-- With the key of a path stands the way to it, for the key leads to the words of the path. -/
theorem OneMeaning.content?_ne_none (h : OneMeaning (ds ++ [d])) (hroot : d.path.isRoot = false)
    {e : List String × Value} (hthere : content? ds d.path.key = some e) {p : ConfigPath}
    (hp : p ∈ d.path.way) : content? ds p.key ≠ none := by
  obtain ⟨q, hq, hkey⟩ := content?_isSome_iff.mp (Option.isSome_iff_exists.mpr ⟨e, hthere⟩)
  have hself : d.path ∈ ways (ds ++ [d]) :=
    mem_ways.mpr ⟨d, by simp, ConfigPath.mem_way_self hroot⟩
  have hliteral := h q (by rw [ways_append]; exact List.mem_append_left _ hq) d.path hself hkey
  obtain ⟨p', hp', hsame⟩ := ConfigPath.exists_mem_way_of_literal hliteral.symm hp
  obtain ⟨d', hd', hq'⟩ := mem_ways.mp hq
  obtain ⟨hroot', hstarts⟩ := ConfigPath.mem_way.mp hp'
  have hway : p' ∈ d'.path.way :=
    ConfigPath.mem_way.mpr ⟨hroot', hstarts.trans (ConfigPath.mem_way.mp hq').2⟩
  rw [← Option.isSome_iff_ne_none, content?_isSome_iff]
  exact ⟨p', mem_ways.mpr ⟨d', hd', hway⟩, ConfigPath.key_eq_of_literal hsame⟩

/-- One demand more adds the way to its path, and sets its value. -/
theorem content?_concat (hroot : ∀ d ∈ ds, d.path.isRoot = false) (d : Demand) (k : String) :
    content? (ds ++ [d]) k =
      ((content? ds k).or ((d.path.way.find? (·.key == k)).map fun p => (p.literal, .empty))).map
        fun e => (e.1, if d.value ≠ .empty ∧ d.path.key = k then d.value else e.2) := by
  rw [content?, content?, ways_append, List.find?_append, latest?_append, latest?_singleton]
  have hone : ways [d] = d.path.way := by simp [ways]
  rw [hone]
  cases hfind : (ways ds).find? (·.key == k) with
  | some p =>
    simp only [Option.some_or, Option.map_some]
    split <;> simp
  | none =>
    rw [latest?_eq_none_of_find? hroot hfind]
    cases d.path.way.find? (·.key == k) with
    | none => simp
    | some p =>
      simp only [Option.none_or, Option.map_some, Option.or_none, Option.map_none]
      split <;> simp

/-- The edit that a demand asks for. -/
def edit : Demand → Definitions.Edit Unit
  | ⟨path, .empty⟩ => discard (Definitions.ensure path)
  | ⟨path, value⟩ => Definitions.setValue path value

end Demand

/-! ## 3. What an edit leaves under a key -/

namespace Definitions

/-- The words of the path that stands under a key, and its value. -/
def stored? (t : Definitions) (k : String) : Option (List String × Value) :=
  (t.get? k).map fun d => (d.fullPath.literal, d.value)

variable {t t' : Definitions} {path done : ConfigPath} {step : Step} {loc : Location} {k : String}

theorem value?_eq_stored? (t : Definitions) (k : String) :
    t.value? k = (t.stored? k).map (·.2) := by
  rw [value?, stored?, Option.map_map]
  rfl

theorem stored?_eq_face? (t : Definitions) (k : String) : t.stored? k =
    ((t.index.get? k).bind t.face?).map fun f => (f.fullPath.literal, f.value) := by
  rw [stored?, get?]
  cases t.index.get? k with
  | none => rfl
  | some l =>
    rw [Option.bind_some, Option.bind_some, face?, Definition.face?, ← at?, Option.map_map]
    rfl

/-- A new definition stands under its key, and under the others stands what stood there. -/
theorem stored?_grow (h : Indexed t) {siblings : List Definition}
    (room : Definition.below? t.roots loc = some siblings) (k : String) :
    (t.grow done step loc siblings.length).stored? k =
      if (done.snoc step).key = k then some ((done.snoc step).literal, .empty)
      else t.stored? k := by
  rw [stored?_eq_face?, stored?_eq_face?, index_grow]
  split
  case isTrue hk =>
    rw [Option.bind_some, face?_grow room, if_pos rfl, Option.map_some]
    simp only [Definition.fullPath, Definition.bound, ConfigPath.append_segment]
  case isFalse hk =>
    cases hi : t.index.get? k with
    | none => rfl
    | some l =>
      have hne : l ≠ loc ++ [siblings.length] := by
        rintro rfl
        obtain ⟨g, hg, -⟩ := h.index_iff.mp hi
        rw [face?_eq_none_of_room room []] at hg
        cases hg
      rw [Option.bind_some, Option.bind_some, face?_grow room, if_neg hne]

/-- A new value is that of its key only. -/
theorem stored?_relabel (h : Indexed t) {key : String} (hkey : t.index.get? key = some loc)
    (v : Value) (k : String) : (t.relabel loc fun d => { d with value := v }).stored? k =
      (t.stored? k).map fun e => (e.1, if key = k then v else e.2) := by
  rw [stored?_eq_face?, stored?_eq_face?, index_relabel]
  cases hi : t.index.get? k with
  | none => rfl
  | some l =>
    rw [Option.bind_some, Option.bind_some, face?_relabel (by intro d; rfl)]
    obtain ⟨f, hf, hfkey⟩ := h.index_iff.mp hi
    by_cases hk : key = k
    · subst hk
      obtain rfl : loc = l := Option.some.inj (hkey.symm.trans hi)
      obtain ⟨d, hd, -⟩ := face?_eq_some.mp hf
      simp [hd, face?_of_at? hd, Definition.fullPath, Definition.bare]
    · have hne : l ≠ loc := by
        rintro rfl
        obtain ⟨g, hg, hgkey⟩ := h.index_iff.mp hkey
        obtain rfl := Option.some.inj (hf.symm.trans hg)
        exact hk (hgkey.symm.trans hfkey)
      simp [hne, hf, hk]

/-- Going down makes the definitions on the way that are missing. -/
theorem ensureBelow_stored? (steps : List Step) (h : Indexed t) (hs : t.Stands done loc)
    (hopen : steps ≠ [] → t.Open loc) {l : Location}
    (hok : ensureBelow done loc steps t = .ok l t') (k : String) :
    t'.stored? k = (t.stored? k).or
      (((done.wayFrom steps).find? (·.key == k)).map fun p => (p.literal, .empty)) := by
  induction steps generalizing done loc t with
  | nil =>
    cases hok
    simp [ConfigPath.wayFrom]
  | cons step rest ih =>
    rw [ConfigPath.wayFrom]
    cases hk : t.index.get? (done.snoc step).key with
    | some found =>
      cases hleaf : !rest.isEmpty && (t.at? found).any (·.isLeaf) with
      | true =>
        rw [ensureBelow_leaf hk hleaf] at hok
        cases hok
      | false =>
        rw [ensureBelow_found hk hleaf] at hok
        have hopen' : rest ≠ [] → t.Open found := by
          intro hrest
          exact open_of_not_isLeaf (by simpa [hrest] using hleaf)
        rw [ih h (stands_snoc hk) hopen' hok]
        by_cases hsame : (done.snoc step).key = k
        · -- what is there stays as it is
          obtain ⟨d, hd, -⟩ := h.get?_of_index hk
          have hthere : t.stored? k = some (d.fullPath.literal, d.value) := by
            rw [stored?, ← hsame, hd, Option.map_some]
          simp [hthere]
        · rw [List.find?_cons_of_neg (by simpa using hsame)]
    | none =>
      obtain ⟨siblings, room⟩ := hs.room h
      have hgrow := h.grow hs room (hopen (by simp)) hk
      rw [ensureBelow_missing hk room] at hok
      rw [ih hgrow (stands_grow _) (fun _ => open_grow room) hok, stored?_grow h room]
      by_cases hsame : (done.snoc step).key = k
      · have hmissing : t.stored? k = none := by
          rw [stored?, ← hsame, h.get?_eq_none.mpr hk, Option.map_none]
        simp [hsame, hmissing]
      · rw [if_neg hsame, List.find?_cons_of_neg (by simpa using hsame)]

theorem ensure_stored? (h : Indexed t) {l : Location} (hok : ensure path t = .ok l t')
    (k : String) : t'.stored? k = (t.stored? k).or
      ((path.way.find? (·.key == k)).map fun p => (p.literal, .empty)) := by
  have hroot := ((ensure_changes path h).2 l t' hok).1
  rw [ensure, if_neg (by simp [hroot])] at hok
  have hopen : path.steps ≠ [] → t.Open [] := by
    intro _ f hf
    cases hf
  exact ensureBelow_stored? path.steps h (stands_nil t rfl : t.Stands .root []) hopen hok k

theorem setValue_stored? (h : Indexed t) {v : Value} (hok : setValue path v t = .ok () t')
    (k : String) : path.isRoot = false ∧ t'.stored? k = ((t.stored? k).or
      ((path.way.find? (·.key == k)).map fun p => (p.literal, .empty))).map
        fun e => (e.1, if path.key = k then v else e.2) := by
  rcases setValue_cases path v t with ⟨cause, herror⟩ | ⟨-, heq⟩
  · rw [herror] at hok
    cases hok
  · rw [heq] at hok
    obtain ⟨l, u, hensure, hupdate⟩ := bind_eq_ok.mp hok
    rw [update_apply] at hupdate
    cases hupdate
    obtain ⟨hroot, hstands⟩ := (ensure_changes path h).2 l u hensure
    have hu := h.changes ((keeps_ensure path).changes h hensure)
    refine ⟨hroot, ?_⟩
    rw [stored?_relabel hu (hstands.index hroot), ensure_stored? h hensure]

/-! ## 4. Trees that meet demands -/

/-- The tree has what the demands ask for, and nothing else. -/
structure Meets (t : Definitions) (ds : List Demand) : Prop where
  indexed : Indexed t
  content : ∀ k, t.stored? k = Demand.content? ds k
  /-- Nothing is asked for at the root path. -/
  nonroot : ∀ d ∈ ds, d.path.isRoot = false

theorem keeps_demand (d : Demand) : Keeps (· = d.path) d.edit := by
  obtain ⟨path, value⟩ := d
  cases value with
  | empty => exact (keeps_ensure path).bind fun _ => .pure ()
  | single text => exact keeps_setValue path _
  | multi texts => exact keeps_setValue path _

namespace Meets

open Demand

variable {ds : List Demand} {d : Demand}

theorem new (schema : SchemaNode) (policy : DuplicatePolicy) :
    (Definitions.new schema policy).Meets [] where
  indexed := indexed_new schema policy
  content _ := rfl
  nonroot _ hd := by cases hd

theorem value? (h : t.Meets ds) (k : String) :
    t.value? k = (content? ds k).map (·.2) := by
  rw [value?_eq_stored?, h.content]

/-- What stands under a key of the demands means what it means there. -/
theorem exists_mem_ways (h : t.Meets ds) {x : Definition} (hx : x ∈ t.walk) :
    ∃ p ∈ ways ds, p.key = x.key ∧ p.literal = x.fullPath.literal := by
  have hentry := h.content x.key
  rw [stored?, h.indexed.mem_walk.mp hx, Option.map_some, content?] at hentry
  obtain ⟨p, hp, heq⟩ := Option.map_eq_some_iff.mp hentry.symm
  have hkey := List.find?_some hp
  exact ⟨p, List.mem_of_find?_eq_some hp, by simpa using hkey, (Prod.mk.inj heq).1⟩

/-- Under the key of a path on the way to another stands the last value that is wanted there. -/
theorem value?_of_mem_ways (h : t.Meets ds) {p : ConfigPath} (hp : p ∈ ways ds) :
    t.value? p.key = some ((latest? ds p.key).getD .empty) := by
  have hsome : ((ways ds).find? (·.key == p.key)).isSome = true :=
    List.find?_isSome.mpr ⟨p, hp, by simp⟩
  obtain ⟨q, hq⟩ := Option.isSome_iff_exists.mp hsome
  rw [h.value?, content?, hq]
  rfl

/-- An edit for one more demand, when it succeeds, makes the tree meet that one too. -/
theorem edit (h : t.Meets ds) (hok : d.edit t = .ok () t') : t'.Meets (ds ++ [d]) := by
  have hindexed := h.indexed.changes ((keeps_demand d).changes h.indexed hok)
  have hconcat : d.path.isRoot = false → ∀ e ∈ ds ++ [d], e.path.isRoot = false := by
    intro hroot e he
    rcases List.mem_append.mp he with he | he
    · exact h.nonroot e he
    · rw [List.mem_singleton.mp he]
      exact hroot
  obtain ⟨path, value⟩ := d
  cases value with
  | empty =>
    obtain ⟨l, u, hensure, hpure⟩ := bind_eq_ok.mp hok
    cases hpure
    refine ⟨hindexed, fun k => ?_, hconcat ((ensure_changes path h.indexed).2 l t' hensure).1⟩
    rw [content?_concat h.nonroot, ensure_stored? h.indexed hensure, h.content]
    simp
  | single text =>
    have hset := setValue_stored? h.indexed hok
    refine ⟨hindexed, fun k => ?_, hconcat (hset "").1⟩
    rw [content?_concat h.nonroot, (hset k).2, h.content]
    simp
  | multi texts =>
    have hset := setValue_stored? h.indexed hok
    refine ⟨hindexed, fun k => ?_, hconcat (hset "").1⟩
    rw [content?_concat h.nonroot, (hset k).2, h.content]
    simp

/-- A demand for what is there already needs no edit, if its key means the path that is there. -/
theorem skip (h : t.Meets ds) (hmeaning : OneMeaning (ds ++ [d])) (hroot : d.path.isRoot = false)
    (hthere : t.value? d.path.key = some d.value) : t.Meets (ds ++ [d]) := by
  refine ⟨h.indexed, fun k => ?_, ?_⟩
  case refine_2 =>
    intro e he
    rcases List.mem_append.mp he with he | he
    · exact h.nonroot e he
    · rw [List.mem_singleton.mp he]
      exact hroot
  rw [content?_concat h.nonroot, h.content]
  obtain ⟨e, he, -⟩ := Option.map_eq_some_iff.mp ((h.value? _).symm.trans hthere)
  cases hc : content? ds k with
  | none =>
    have hnone : d.path.way.find? (·.key == k) = none := by
      refine List.find?_eq_none.mpr fun p hp hkey => ?_
      obtain rfl : p.key = k := by simpa using hkey
      exact hmeaning.content?_ne_none hroot he hp hc
    rw [hnone]
    rfl
  | some e =>
    rw [Option.some_or, Option.map_some]
    split
    case isTrue hk =>
      rw [h.value?, hk.2, hc] at hthere
      rw [← Option.some.inj hthere]
    case isFalse => rfl

/-- What stands above another definition of the demands has no value. -/
theorem value?_above (h : t.Meets ds) (hmeaning : OneMeaning ds) {p : ConfigPath} {step : Step}
    (hp : p.isRoot = false) (hstep : p.snoc step ∈ ways ds) : t.value? p.key = some .empty := by
  obtain ⟨x, hx, -⟩ := Option.map_eq_some_iff.mp (h.value?_of_mem_ways hstep)
  have hxkey := h.indexed.key_of_get? hx
  have hxwalk : x ∈ t.walk := h.indexed.mem_walk.mpr (by rwa [hxkey])
  obtain ⟨q, hq, hqkey, hqliteral⟩ := h.exists_mem_ways hxwalk
  have hliteral : x.fullPath.literal = (p.snoc step).literal :=
    hqliteral.symm.trans (hmeaning q hq _ hstep (hqkey.trans hxkey))
  rw [Definition.fullPath_literal, ConfigPath.literal_snoc] at hliteral
  have hparent : x.parent.literal = p.literal := (List.append_inj' hliteral rfl).1
  rcases Definition.mem_or_child_of_mem_walkAll hxwalk with hmem | ⟨y, hy, hmem⟩
  · have hroot := (ConfigPath.isRoot_eq_of_literal hparent).trans hp
    rw [(h.indexed.mem_roots hxwalk).mp hmem] at hroot
    cases hroot
  · obtain ⟨-, hkey, hempty⟩ := h.indexed.child_of_mem hy hmem
    rw [← ConfigPath.key_eq_of_literal hparent, hkey, Definitions.value?,
      h.indexed.mem_walk.mp hy, Option.map_some, hempty]

/-- The demands that a tree meets are compatible, if their keys mean one path each. -/
theorem compatible (h : t.Meets ds) (hmeaning : OneMeaning ds) : Compatible ds := by
  intro d hd
  refine ⟨h.nonroot d hd, fun p hp hne => ?_⟩
  obtain ⟨step, hstep⟩ := ConfigPath.exists_snoc_mem_way hp hne
  have hempty := h.value?_above hmeaning (ConfigPath.mem_way.mp hp).1
    (mem_ways.mpr ⟨d, hd, hstep⟩)
  rw [h.value?_of_mem_ways (mem_ways.mpr ⟨d, hd, hp⟩)] at hempty
  cases hlatest : latest? ds p.key with
  | none => rfl
  | some v =>
    rw [hlatest] at hempty
    exact absurd (Option.some.inj hempty) (of_latest?_eq_some hlatest).1

/-- What is to have a value has nothing below it: that would be on the way to another path. -/
theorem children_eq_nil (h : t.Meets ds) {all : List Demand} (hall : Compatible all)
    (hsub : ds ⊆ all) (hd : d ∈ all) (hvalue : d.value ≠ .empty) {x : Definition}
    (hx : t.get? d.path.key = some x) : x.children = [] := by
  have hxkey := h.indexed.key_of_get? hx
  have hxwalk : x ∈ t.walk := h.indexed.mem_walk.mpr (by rwa [hxkey])
  refine List.eq_nil_iff_forall_not_mem.mpr fun c hc => ?_
  obtain ⟨hcroot, hckey, -⟩ := h.indexed.child_of_mem hxwalk hc
  obtain ⟨q, hq, -, hliteral⟩ :=
    h.exists_mem_ways ((Definition.children_sublist_walkAll hxwalk).subset hc)
  obtain ⟨e, he, hqway⟩ := mem_ways.mp hq
  rw [Definition.fullPath_literal] at hliteral
  obtain ⟨p, hp, hpe, hpliteral⟩ := ConfigPath.exists_above hqway hcroot hliteral
  have hnone := (hall e (hsub he)).2 p hp hpe
  rw [ConfigPath.key_eq_of_literal hpliteral, hckey, hxkey] at hnone
  exact latest?_ne_none hd hvalue hnone

/-- Where demands are compatible, the edit for the next of them succeeds. -/
theorem edit_ok (h : t.Meets ds) (hpolicy : t.policy = .warn) {all : List Demand}
    (hall : Compatible all) (hinitial : ds ++ [d] <+: all) : ∃ t', d.edit t = .ok () t' := by
  have hbefore : ds <+: all := (List.prefix_append ds [d]).trans hinitial
  have hd : d ∈ all := hinitial.subset (by simp)
  obtain ⟨hroot, habove⟩ := hall d hd
  have hclear : t.Clear d.path := by
    intro p hproot hstarts hne w hw
    have hnone := habove p (ConfigPath.mem_way.mpr ⟨hproot, hstarts⟩) hne
    rw [h.value?] at hw
    obtain ⟨e, he, rfl⟩ := Option.map_eq_some_iff.mp hw
    obtain ⟨q, -, rfl⟩ := Option.map_eq_some_iff.mp he
    rw [latest?_eq_none_of_initial hbefore hnone]
    rfl
  obtain ⟨l, u, hensure, -⟩ := ensure_clear h.indexed hroot hclear
  have hvacant : d.value ≠ .empty → checkVacant d.path t = .ok () t := by
    intro hvalue
    rw [checkVacant_apply]
    cases hx : t.get? d.path.key with
    | none => rfl
    | some x => simp [h.children_eq_nil hall hbefore.subset hd hvalue hx, hpolicy]
  obtain ⟨path, value⟩ := d
  cases value with
  | empty => exact ⟨u, bind_of_ok hensure⟩
  | single text => exact ⟨_, (bind_of_ok (hvacant (by simp))).trans (bind_of_ok hensure)⟩
  | multi texts => exact ⟨_, (bind_of_ok (hvacant (by simp))).trans (bind_of_ok hensure)⟩

end Meets

end Definitions

end RouterConfig
