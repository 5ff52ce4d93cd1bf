/-
RouterConfig.Proofs.Path.Key — the key of a path, step by step, and when
one key stands below another.

A key joins the steps of a path by slashes, and a step may hold a slash
itself. A key therefore does not tell its steps apart, but it still tells
two things: a longer path has a longer key (`key_ne_of_prefix`), and two
keys that end in slash-free steps agree only when the steps do
(`slash_cancel`).
-/
import Mathlib.Data.List.Induction
import RouterConfig.Definition.Basic
import RouterConfig.Proofs.Text.Cutting

namespace RouterConfig

/-! ## 1. Joining -/

namespace Text

/-- What stands before the first slash of a text can be told, and so can what stands after it. -/
theorem append_slash_cancel {a b c d : List Char} (ha : '/' ∉ a) (hc : '/' ∉ c)
    (h : a ++ '/' :: b = c ++ '/' :: d) : a = c ∧ b = d := by
  have hcut := cut_append ha b
  rw [h, cut_append hc d] at hcut
  cases hcut
  exact ⟨rfl, rfl⟩

/-- Two texts that begin with a slash-free piece before a slash agree only when both parts do. -/
theorem slash_cancel_left {m n p q : String} (hm : '/' ∉ m.toList) (hn : '/' ∉ n.toList)
    (h : m ++ "/" ++ p = n ++ "/" ++ q) : m = n ∧ p = q := by
  have hl : m.toList ++ '/' :: p.toList = n.toList ++ '/' :: q.toList := by
    have := congrArg String.toList h
    simpa using this
  obtain ⟨hmn, hpq⟩ := append_slash_cancel hm hn hl
  exact ⟨String.toList_inj.mp hmn, String.toList_inj.mp hpq⟩

/-- Two texts that end in a slash-free piece after a slash agree only when both parts do. -/
theorem slash_cancel {p q m n : String} (hm : '/' ∉ m.toList) (hn : '/' ∉ n.toList)
    (h : p ++ "/" ++ m = q ++ "/" ++ n) : p = q ∧ m = n := by
  -- read from the end, the slash-free piece is what comes before the first slash
  have hl : m.toList.reverse ++ '/' :: p.toList.reverse
      = n.toList.reverse ++ '/' :: q.toList.reverse := by
    have := congrArg (fun s : String => s.toList.reverse) h
    simpa using this
  obtain ⟨hmn, hpq⟩ := append_slash_cancel (by simpa using hm) (by simpa using hn) hl
  constructor
  · exact String.toList_inj.mp (List.reverse_inj.mp hpq)
  · exact String.toList_inj.mp (List.reverse_inj.mp hmn)

end Text

/-! ## 2. The key of a path -/

namespace ConfigPath

theorem eq_of_steps {p q : ConfigPath} (h : p.steps = q.steps) : p = q := by
  cases p
  cases q
  exact congrArg mk h

/-- The path with one step more. -/
def snoc (path : ConfigPath) (step : Step) : ConfigPath := ⟨path.steps ++ [step]⟩

@[simp] theorem snoc_steps (path : ConfigPath) (step : Step) :
    (path.snoc step).steps = path.steps ++ [step] := rfl

@[simp] theorem isRoot_snoc (path : ConfigPath) (step : Step) :
    (path.snoc step).isRoot = false := by
  simp [isRoot]

/-- To go on along steps is to go on by the first of them and then along the others. -/
theorem mk_append_cons (path : ConfigPath) (step : Step) (rest : List Step) :
    (⟨path.steps ++ step :: rest⟩ : ConfigPath) = ⟨(path.snoc step).steps ++ rest⟩ :=
  eq_of_steps (by simp)

theorem mk_append_nil (path : ConfigPath) : (⟨path.steps ++ []⟩ : ConfigPath) = path :=
  eq_of_steps (List.append_nil _)

theorem isRoot_iff {path : ConfigPath} : path.isRoot = true ↔ path = root := by
  obtain ⟨steps⟩ := path
  simp [isRoot, root]

@[simp] theorem literal_append (path : ConfigPath) (segments : List Segment) :
    (path.append segments).literal = path.literal ++ segments.map (·.literal) := by
  simp only [literal, append, List.map_append, List.map_map]
  rfl

theorem schema_append (path : ConfigPath) (segments : List Segment) :
    (path.append segments).schema = path.schema ++ segments.map (·.schema) := by
  simp only [schema, append, List.map_append, List.map_map]
  rfl

theorem append_segment (path : ConfigPath) (step : Step) :
    path.append [step.segment] = path.snoc step := by
  simp [append, snoc]

theorem key_snoc {path : ConfigPath} (h : path.isRoot = false) (step : Step) :
    (path.snoc step).key = path.key ++ "/" ++ step.literal := by
  have hne : path.literal ≠ [] := by
    simpa [isRoot, literal] using h
  simp only [key, literal, snoc_steps, List.map_append, List.map_cons, List.map_nil]
  exact Text.join_concat "/" step.literal _ hne

end ConfigPath

/-! ## 3. Keys below keys -/

/-- The key `k` is `top`, or continues it after a slash. -/
def KeyWithin (top k : String) : Prop := k = top ∨ ∃ tail, k = top ++ "/" ++ tail

namespace KeyWithin

theorem refl (k : String) : KeyWithin k k := .inl rfl

theorem child (k name : String) : KeyWithin k (k ++ "/" ++ name) := .inr ⟨name, rfl⟩

theorem trans {a b c : String} (hab : KeyWithin a b) (hbc : KeyWithin b c) : KeyWithin a c := by
  rcases hbc with rfl | ⟨u, rfl⟩
  · exact hab
  · rcases hab with rfl | ⟨v, rfl⟩
    · exact child _ _
    · exact .inr ⟨v ++ "/" ++ u, by simp only [String.append_assoc]⟩

theorem length_le {a b : String} (h : KeyWithin a b) : a.length ≤ b.length := by
  rcases h with rfl | ⟨u, rfl⟩
  · exact Nat.le_refl _
  · simp only [String.length_append]
    omega

theorem antisymm {a b : String} (h : KeyWithin a b) (h' : KeyWithin b a) : a = b := by
  rcases h with rfl | ⟨u, rfl⟩
  · rfl
  · have hlen := h'.length_le
    have : "/".length = 1 := rfl
    simp only [String.length_append] at hlen
    omega

/-- Below a piece before a slash stands what starts with the same piece. -/
theorem of_cons {a b p q : String} (ha : '/' ∉ a.toList) (hb : '/' ∉ b.toList)
    (h : KeyWithin (a ++ "/" ++ p) (b ++ "/" ++ q)) : a = b ∧ KeyWithin p q := by
  rcases h with heq | ⟨tail, heq⟩
  · obtain ⟨rfl, rfl⟩ := Text.slash_cancel_left hb ha heq
    exact ⟨rfl, .refl _⟩
  · have hassoc : a ++ "/" ++ p ++ "/" ++ tail = a ++ "/" ++ (p ++ "/" ++ tail) := by
      simp only [String.append_assoc]
    rw [hassoc] at heq
    obtain ⟨rfl, rfl⟩ := Text.slash_cancel_left hb ha heq
    exact ⟨rfl, .inr ⟨tail, rfl⟩⟩

/-- Where no piece has a slash, one key is within another only if its pieces start the pieces of the
other. -/
theorem prefix_of_join {l l' : List String} (hl : ∀ a ∈ l, '/' ∉ a.toList)
    (hl' : ∀ a ∈ l', '/' ∉ a.toList) (hne : l ≠ []) (hne' : l' ≠ [])
    (h : KeyWithin (Text.join "/" l) (Text.join "/" l')) : l <+: l' := by
  induction l generalizing l' with
  | nil => exact absurd rfl hne
  | cons a rest ih =>
    obtain ⟨b, rest', rfl⟩ := List.exists_cons_of_ne_nil hne'
    have ha := hl a List.mem_cons_self
    have hb := hl' b List.mem_cons_self
    cases rest with
    | nil =>
      cases rest' with
      | nil =>
        rcases h with heq | ⟨tail, heq⟩
        · obtain rfl : b = a := heq
          exact List.prefix_refl _
        · obtain rfl : b = a ++ "/" ++ tail := heq
          simp at hb
      | cons b' more' =>
        rw [Text.join_cons_cons] at h
        rcases h with heq | ⟨tail, heq⟩
        · obtain rfl : b ++ "/" ++ Text.join "/" (b' :: more') = a := heq
          simp at ha
        · obtain ⟨rfl, -⟩ := Text.slash_cancel_left hb ha heq
          exact ⟨b' :: more', rfl⟩
    | cons a' more =>
      cases rest' with
      | nil =>
        rw [Text.join_cons_cons] at h
        rcases h with heq | ⟨tail, heq⟩
        · obtain rfl : b = a ++ "/" ++ Text.join "/" (a' :: more) := heq
          simp at hb
        · obtain rfl : b = a ++ "/" ++ Text.join "/" (a' :: more) ++ "/" ++ tail := heq
          simp at hb
      | cons b' more' =>
        rw [Text.join_cons_cons, Text.join_cons_cons] at h
        obtain ⟨rfl, hrest⟩ := of_cons ha hb h
        have := ih (fun c hc => hl c (List.mem_cons_of_mem _ hc))
          (fun c hc => hl' c (List.mem_cons_of_mem _ hc)) (by simp) (by simp) hrest
        exact List.cons_prefix_cons.mpr ⟨rfl, this⟩

/-- Where no piece has a slash, a key means its pieces. -/
theorem eq_of_join {l l' : List String} (hl : ∀ a ∈ l, '/' ∉ a.toList)
    (hl' : ∀ a ∈ l', '/' ∉ a.toList) (hne : l ≠ []) (hne' : l' ≠ [])
    (h : Text.join "/" l = Text.join "/" l') : l = l' := by
  have hstarts := prefix_of_join hl hl' hne hne' (.inl h.symm)
  have hstarts' := prefix_of_join hl' hl hne' hne (.inl h)
  exact hstarts.eq_of_length_le hstarts'.length_le

end KeyWithin

namespace ConfigPath

/-- The key of a path stands within the key of every path it continues, the root apart. -/
theorem keyWithin_of_prefix {path other : ConfigPath} (h : path.isRoot = false)
    (hother : path.steps <+: other.steps) : KeyWithin path.key other.key := by
  obtain ⟨more, hmore⟩ := hother
  obtain rfl : other = ⟨path.steps ++ more⟩ := by rw [hmore]
  clear hmore
  induction more using List.reverseRecOn with
  | nil => simpa using KeyWithin.refl path.key
  | append_singleton more step ih =>
    have hroot : (ConfigPath.mk (path.steps ++ more)).isRoot = false := by
      simp only [isRoot, List.isEmpty_eq_false_iff] at h ⊢
      simp [h]
    have hkey := key_snoc hroot step
    simp only [snoc, List.append_assoc] at hkey
    rw [hkey]
    exact ih.trans (KeyWithin.child _ _)

/-- A path that continues another, the root apart, has another key. -/
theorem key_ne_of_prefix {path : ConfigPath} (h : path.isRoot = false) {more : List Step}
    (hmore : more ≠ []) : path.key ≠ (ConfigPath.mk (path.steps ++ more)).key := by
  cases more with
  | nil => exact absurd rfl hmore
  | cons step rest =>
    have hstep : KeyWithin (path.snoc step).key (ConfigPath.mk (path.steps ++ step :: rest)).key :=
      keyWithin_of_prefix (isRoot_snoc path step) ⟨rest, by simp⟩
    have hlen := hstep.length_le
    rw [key_snoc h] at hlen
    intro heq
    rw [← heq] at hlen
    simp only [String.length_append] at hlen
    have : "/".length = 1 := rfl
    omega

end ConfigPath

/-! ## 4. The key of a definition -/

namespace Definition

/-- A definition is known by its parent's path and its name. -/
theorem fullPath_literal (d : Definition) : d.fullPath.literal = d.parent.literal ++ [d.name] := by
  simp [fullPath, ConfigPath.append, ConfigPath.literal, name, Step.ofSegment]

theorem key_of_root {d : Definition} (h : d.parent.isRoot = true) : d.key = d.name := by
  rw [key, ConfigPath.key, fullPath_literal, ConfigPath.isRoot_iff.mp h]
  rfl

theorem key_of_child {d : Definition} (h : d.parent.isRoot = false) :
    d.key = d.parent.key ++ "/" ++ d.name := by
  have hne : d.parent.literal ≠ [] := by
    simpa [ConfigPath.isRoot, ConfigPath.literal] using h
  rw [key, ConfigPath.key, fullPath_literal, Text.join_concat "/" d.name _ hne, ← ConfigPath.key]

@[simp] theorem key_bound (schema : SchemaNode) (path : ConfigPath) (step : Step) :
    (bound schema path step.segment).key = (path.snoc step).key := by
  simp [key, fullPath, bound, ConfigPath.append_segment]

end Definition

end RouterConfig
