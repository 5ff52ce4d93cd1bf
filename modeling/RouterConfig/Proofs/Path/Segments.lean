/-
RouterConfig.Proofs.Path.Segments — a path is a list of segments, through
any calls.

`calls_on_segments`: whatever calls are made on paths at hand, from the path
of a list of segments on, each path at hand is the one from the segments
that the same calls on lists give (`Spells`). Its texts, literal and for the
grammar, are each what the same calls on lists of texts give. Only `append`
changes a path that is at hand; the other calls leave it and return a new
one.

## How the proof goes

The calls can be made on paths and on lists (`PathCall.onPath`,
`PathCall.onList`), and a run is carried along any map that a single call
respects (`performAt_map` for one call, `performAllAt_map` for runs, by
induction on the calls). Two maps are used:

* from lists of segments to paths, by `onPath_ofSegments`, with one lemma
  for each call;
* from segments to their texts, by `onList_map`. So the texts of a path are
  runs on lists of texts, though neither looks at the other.

What a path of segments says is then told without runs: its length, its
texts and the segments at its places (`spells_ofSegments`).

## Side conditions

There are none. A call names the place of a path at hand; where there is
no such path, nothing is called. A segment is found again by its two texts,
which differ for a tag value only (`schema_getElem?`), so that a tag value
that is spelled like the placeholder comes back as a fixed word.
-/
import Mathlib.Data.List.DropRight
import Mathlib.Data.List.Forall2
import RouterConfig.Proofs.Path.Key

namespace RouterConfig

/-! ## 1. Calls -/

/-- A call on a path, or on any list. -/
inductive PathCall (α : Type) where
  | append (items : List α)
  | extend (items : List α)
  | diverge (n : Nat) (items : List α)
  | parent
  deriving Repr

namespace PathCall

variable {α β : Type}

/-- The call with other items. -/
def map (f : α → β) : PathCall α → PathCall β
  | .append items => .append (items.map f)
  | .extend items => .extend (items.map f)
  | .diverge n items => .diverge n (items.map f)
  | .parent => .parent

/-- Whether the call changes what it is made on. -/
def changes : PathCall α → Bool
  | .append _ => true
  | _ => false

/-- What a call leaves of the path it is made on, and the path that it returns. -/
def onPath (path : ConfigPath) : PathCall Segment → ConfigPath × Option ConfigPath
  | .append segments => (path.append segments, none)
  | .extend segments => (path, some (path.append segments))
  | .diverge n segments => (path, some (path.diverge n segments))
  | .parent => (path, path.parent?)

/-- The same for a list: items come to its end, the last ones are dropped before, and an empty list
has no parent. -/
def onList (list : List α) : PathCall α → List α × Option (List α)
  | .append items => (list ++ items, none)
  | .extend items => (list, some (list ++ items))
  | .diverge n items => (list, some (list.rdrop n ++ items))
  | .parent => (list, if list.isEmpty then none else some list.dropLast)

end PathCall

/-! ## 2. Runs -/

section Runs

variable {α β γ δ : Type}

/-- What is at hand after a call on the item at place `i`: the call may change the item, and what it
returns comes last. Where there is no such item, nothing is called. -/
def performAt (perform : α → PathCall γ → α × Option α) (hand : List α) (i : Nat)
    (call : PathCall γ) : List α :=
  match hand[i]? with
  | none => hand
  | some item => hand.set i (perform item call).1 ++ (perform item call).2.toList

/-- What is at hand after calls, each on the item at its place. -/
def performAllAt (perform : α → PathCall γ → α × Option α) (hand : List α)
    (calls : List (Nat × PathCall γ)) : List α :=
  calls.foldl (fun hand call => performAt perform hand call.1 call.2) hand

/-- One call is carried along a map. -/
theorem performAt_map {perform : α → PathCall γ → α × Option α}
    {perform' : β → PathCall δ → β × Option β} {f : α → β} {call : PathCall γ} {call' : PathCall δ}
    (h : ∀ item, perform' (f item) call' = (perform item call).map f (Option.map f))
    (hand : List α) (i : Nat) :
    performAt perform' (hand.map f) i call' = (performAt perform hand i call).map f := by
  rw [performAt, performAt, List.getElem?_map]
  cases hand[i]? with
  | none => rfl
  | some item =>
    simp only [Option.map_some, h, Prod.map_fst, Prod.map_snd, List.map_append, List.map_set,
      Option.toList_map]

/-- So is a run. -/
theorem performAllAt_map {perform : α → PathCall γ → α × Option α}
    {perform' : β → PathCall δ → β × Option β} {f : α → β} {g : PathCall γ → PathCall δ}
    (h : ∀ item call, perform' (f item) (g call) = (perform item call).map f (Option.map f))
    (hand : List α) (calls : List (Nat × PathCall γ)) :
    performAllAt perform' (hand.map f) (calls.map fun call => (call.1, g call.2)) =
      (performAllAt perform hand calls).map f := by
  induction calls generalizing hand with
  | nil => rfl
  | cons call calls ih =>
    have hstep := performAt_map (fun item => h item call.2) hand call.1
    simp only [performAllAt, List.map_cons, List.foldl_cons, hstep]
    exact ih _

theorem performAllAt_concat (perform : α → PathCall γ → α × Option α) (hand : List α)
    (calls : List (Nat × PathCall γ)) (i : Nat) (call : PathCall γ) :
    performAllAt perform hand (calls ++ [(i, call)]) =
      performAt perform (performAllAt perform hand calls) i call := by
  simp [performAllAt]

end Runs

/-! ## 3. The path of a list of segments -/

namespace ConfigPath

/-- A path from segments goes on as their list does. -/
theorem append_ofSegments (segments more : List Segment) :
    (ofSegments segments).append more = ofSegments (segments ++ more) := by
  simp [ofSegments, append, root]

theorem diverge_ofSegments (segments : List Segment) (n : Nat) (more : List Segment) :
    (ofSegments segments).diverge n more = ofSegments (segments.rdrop n ++ more) := by
  simp [ofSegments, diverge, append, root, List.rdrop, List.map_take]

theorem parent?_ofSegments (segments : List Segment) : (ofSegments segments).parent? =
    (if segments.isEmpty then none else some segments.dropLast).map ofSegments := by
  have hempty : (ofSegments segments).steps.isEmpty = segments.isEmpty := by
    simp [ofSegments, append, root]
  rw [parent?, hempty, diverge_ofSegments]
  split
  case isTrue => rfl
  case isFalse => simp [List.rdrop, List.dropLast_eq_take]

theorem onPath_ofSegments (segments : List Segment) (call : PathCall Segment) :
    call.onPath (ofSegments segments) = (call.onList segments).map ofSegments (Option.map ofSegments) := by
  cases call with
  | append more => simp [PathCall.onPath, PathCall.onList, append_ofSegments]
  | extend more => simp [PathCall.onPath, PathCall.onList, append_ofSegments]
  | diverge n more => simp [PathCall.onPath, PathCall.onList, diverge_ofSegments]
  | parent => simp [PathCall.onPath, PathCall.onList, parent?_ofSegments]

/-- The texts of a path are those of its segments. -/
theorem literal_ofSegments (segments : List Segment) :
    (ofSegments segments).literal = segments.map (·.literal) :=
  literal_append root segments

theorem schema_ofSegments (segments : List Segment) :
    (ofSegments segments).schema = segments.map (·.schema) :=
  schema_append root segments

/-- The two texts of a step agree unless it is a tag value, for which the grammar has the
placeholder. -/
theorem schema_getElem? (path : ConfigPath) (i : Nat) : path.schema[i]? =
    if path.isValueAt i then some placeholder else path.literal[i]? := by
  simp only [schema, literal, isValueAt, List.getElem?_map]
  cases hstep : path.steps[i]? with
  | none => simp
  | some step =>
    rcases step.coherent with h | h
    · simp +contextual [Step.isValue, h]
    · by_cases hp : step.literal = placeholder <;> simp [Step.isValue, h, hp]

/-- A path is rebuilt from the segments at its places. -/
theorem ofSegments_segment? (path : ConfigPath) : ∃ segments : List Segment,
    (List.range path.length).map path.segment? = segments.map some ∧ ofSegments segments = path := by
  refine ⟨path.segments, ?_, ?_⟩
  · refine List.ext_getElem? ?_
    intro i
    by_cases hi : i < path.length
    · have hi' : i < path.steps.length := hi
      simp [segments, segment?, hi, hi']
    · have hi' : path.steps.length ≤ i := Nat.not_lt.mp hi
      simp [segments, length, hi']
  · exact eq_of_steps (by simp [ofSegments, append, root, segments, Function.comp_def])

/-- The path spells the list of segments. -/
structure Spells (path : ConfigPath) (segments : List Segment) : Prop where
  eq_ofSegments : path = ofSegments segments
  length_literal : path.literal.length = segments.length
  length_schema : path.schema.length = segments.length
  fixed : ∀ (i : Nat) (name : String), segments[i]? = some (.fixed name) →
    path.literal[i]? = some name ∧ path.schema[i]? = some name
  value : ∀ (i : Nat) (text : String), segments[i]? = some (.value text) →
    path.literal[i]? = some text ∧ path.schema[i]? = some placeholder
  /-- The kind of a step, as it is read off the two texts, tells the one for the grammar. -/
  kind : ∀ i : Nat, path.schema[i]? = if path.isValueAt i then some placeholder else path.literal[i]?
  rebuilt : ∃ again : List Segment,
    (List.range path.length).map path.segment? = again.map some ∧ ofSegments again = path

theorem spells_ofSegments (segments : List Segment) : (ofSegments segments).Spells segments where
  eq_ofSegments := rfl
  length_literal := by rw [literal_ofSegments, List.length_map]
  length_schema := by rw [schema_ofSegments, List.length_map]
  fixed i name h := by simp [literal_ofSegments, schema_ofSegments, h, Segment.literal, Segment.schema]
  value i text h := by simp [literal_ofSegments, schema_ofSegments, h, Segment.literal, Segment.schema]
  kind := schema_getElem? _
  rebuilt := ofSegments_segment? _

/-! ## 4. Runs on paths -/

theorem onList_map {α β : Type} (f : α → β) (list : List α) (call : PathCall α) :
    (call.map f).onList (list.map f) = (call.onList list).map (List.map f) (Option.map (List.map f)) := by
  cases call with
  | append items => simp [PathCall.onList, PathCall.map]
  | extend items => simp [PathCall.onList, PathCall.map]
  | diverge n items => simp [PathCall.onList, PathCall.map, List.rdrop, List.map_take]
  | parent =>
    simp only [PathCall.onList, PathCall.map, List.isEmpty_map, Prod.map_apply]
    split <;> simp [List.map_dropLast]

/-- A call that does not change what it is made on leaves all that is at hand. -/
theorem performAt_leaves {call : PathCall Segment} (h : call.changes = false)
    (hand : List ConfigPath) (i : Nat) : hand <+: performAt PathCall.onPath hand i call := by
  rw [performAt]
  cases hpath : hand[i]? with
  | none => exact List.prefix_refl hand
  | some path =>
    have hkept : (call.onPath path).1 = path := by
      cases call with
      | append => cases h
      | extend => rfl
      | diverge => rfl
      | parent => rfl
    obtain ⟨hi, rfl⟩ := List.getElem?_eq_some_iff.mp hpath
    simp only [hkept, List.set_getElem_self]
    exact List.prefix_append _ _

/-- **A path is a list of segments.** Whatever calls are made on paths at hand, from one on: each
path is the one from the segments that the same calls on lists give; the texts of all paths, of
either kind, are what the same calls on lists of texts give; and only `append` changes a path that
is at hand. -/
theorem calls_on_segments (start : List Segment) (calls : List (Nat × PathCall Segment)) :
    let paths := performAllAt PathCall.onPath [ofSegments start]
    List.Forall₂ Spells (paths calls) (performAllAt PathCall.onList [start] calls) ∧
    (paths calls).map (·.literal) = performAllAt PathCall.onList [start.map (·.literal)]
      (calls.map fun call => (call.1, call.2.map (·.literal))) ∧
    (paths calls).map (·.schema) = performAllAt PathCall.onList [start.map (·.schema)]
      (calls.map fun call => (call.1, call.2.map (·.schema))) ∧
    ∀ i call, call.changes = false → paths calls <+: paths (calls ++ [(i, call)]) := by
  intro paths
  have hpaths : paths calls =
      (performAllAt PathCall.onList [start] calls).map ofSegments := by
    simpa using performAllAt_map (g := id) onPath_ofSegments [start] calls
  refine ⟨?_, ?_, ?_, ?_⟩
  · rw [hpaths, List.forall₂_map_left_iff, List.forall₂_same]
    exact fun segments _ => spells_ofSegments segments
  · rw [hpaths, List.map_map, ← List.map_singleton,
      performAllAt_map (onList_map Segment.literal) [start] calls]
    simp only [Function.comp_def, literal_ofSegments]
  · rw [hpaths, List.map_map, ← List.map_singleton,
      performAllAt_map (onList_map Segment.schema) [start] calls]
    simp only [Function.comp_def, schema_ofSegments]
  · intro i call h
    simp only [paths, performAllAt_concat]
    exact performAt_leaves h _ i

theorem calls_on_segments_rule :
    let paths := performAllAt PathCall.onPath [ofSegments [.fixed "name", .value "LAN-IN"]]
    let calls : List (Nat × PathCall Segment) :=
      [(0, .extend [.fixed "rule", .value "10"]), (1, .append [.fixed "action"]), (0, .parent)]
    let call : PathCall Segment := .diverge 99 [.fixed "nat"]
    (paths calls).map (·.literal) =
        [["name", "LAN-IN"], ["name", "LAN-IN", "rule", "10", "action"], ["name"]] ∧
      call.changes = false ∧ paths calls <+: paths (calls ++ [(1, call)]) := by
  intro paths calls call
  obtain ⟨-, hliteral, -, hleaves⟩ := calls_on_segments [.fixed "name", .value "LAN-IN"] calls
  refine ⟨?_, rfl, hleaves 1 call rfl⟩
  rw [hliteral]
  decide

end ConfigPath

end RouterConfig
