/-
RouterConfig.Dictionary — values under text keys, in ascending order of the
keys.

The entries are a list whose keys strictly ascend; that is part of the
type. Two dictionaries are therefore equal exactly when they hold the same
value under every key, and the keys are listed in order at no cost.
-/

namespace RouterConfig

/-- Values under text keys. -/
structure Dictionary (α : Type u) where
  entries : List (String × α)
  /-- The keys strictly ascend. -/
  ascending : entries.Pairwise fun a b => a.1 < b.1

namespace Dictionary

variable {α : Type u}

/-! ## 1. Operations -/

/-- No entry. -/
def empty : Dictionary α := ⟨[], .nil⟩

instance : Inhabited (Dictionary α) := ⟨empty⟩

instance : EmptyCollection (Dictionary α) := ⟨empty⟩

/-- The value under a key in a list of entries. -/
def lookup (key : String) : List (String × α) → Option α
  | [] => none
  | (k, v) :: rest => if k = key then some v else lookup key rest

/-- The value under a key. -/
def get? (d : Dictionary α) (key : String) : Option α := lookup key d.entries

/-- Whether there is a value under a key. -/
def contains (d : Dictionary α) (key : String) : Bool := (d.get? key).isSome

/-- The keys in order. -/
def keys (d : Dictionary α) : List String := d.entries.map (·.1)

/-- The number of entries. -/
def size (d : Dictionary α) : Nat := d.entries.length

/-- Whether there is no entry. -/
def isEmpty (d : Dictionary α) : Bool := d.entries.isEmpty

/-- Entries with a value put under a key, at the place where the order has it. -/
def put (key : String) (value : α) : List (String × α) → List (String × α)
  | [] => [(key, value)]
  | (k, v) :: rest =>
    if key < k then (key, value) :: (k, v) :: rest
    else if k = key then (key, value) :: rest
    else (k, v) :: put key value rest

/-! ## 2. The order is kept -/

theorem lt_of_not_lt_of_ne {a b : String} (h : ¬ a < b) (hne : b ≠ a) : b < a := by
  rcases Decidable.em (b < a) with h' | h'
  · exact h'
  · exact absurd (String.le_antisymm (String.not_lt.mp h) (String.not_lt.mp h')) hne

theorem mem_put {key : String} {value : α} {l : List (String × α)} {e : String × α}
    (h : e ∈ put key value l) : e = (key, value) ∨ e ∈ l := by
  induction l with
  | nil => simpa [put] using h
  | cons head rest ih =>
    obtain ⟨k, v⟩ := head
    simp only [put] at h
    split at h
    · simpa using h
    · split at h
      · rcases List.mem_cons.mp h with h | h
        · exact .inl h
        · exact .inr (List.mem_cons_of_mem _ h)
      · rcases List.mem_cons.mp h with h | h
        · exact .inr (by simp [h])
        · rcases ih h with h | h
          · exact .inl h
          · exact .inr (List.mem_cons_of_mem _ h)

/-- Putting a value keeps the keys in order. -/
theorem pairwise_put (key : String) (value : α) {l : List (String × α)}
    (h : l.Pairwise fun a b => a.1 < b.1) :
    (put key value l).Pairwise fun a b => a.1 < b.1 := by
  induction l with
  | nil => simp [put]
  | cons head rest ih =>
    obtain ⟨k, v⟩ := head
    obtain ⟨hk, hrest⟩ := List.pairwise_cons.mp h
    simp only [put]
    split
    case isTrue hlt =>
      refine List.pairwise_cons.mpr ⟨?_, h⟩
      intro e he
      rcases List.mem_cons.mp he with rfl | he
      · exact hlt
      · exact String.lt_trans hlt (hk e he)
    case isFalse hlt =>
      split
      case isTrue heq =>
        subst heq
        exact List.pairwise_cons.mpr ⟨hk, hrest⟩
      case isFalse hne =>
        refine List.pairwise_cons.mpr ⟨?_, ih hrest⟩
        intro e he
        rcases mem_put he with rfl | he
        · exact lt_of_not_lt_of_ne hlt hne
        · exact hk e he

/-- The dictionary with a value put under a key. -/
def insert (d : Dictionary α) (key : String) (value : α) : Dictionary α :=
  ⟨put key value d.entries, pairwise_put key value d.ascending⟩

/-- The dictionary of these entries; of two with one key the later counts. -/
def ofList (entries : List (String × α)) : Dictionary α :=
  entries.foldl (fun d e => d.insert e.1 e.2) empty

/-! ## 3. What a look-up finds -/

/-- A value that was put is found under its key, and the others as before. -/
theorem lookup_put (key other : String) (value : α) (l : List (String × α)) :
    lookup other (put key value l) = if key = other then some value else lookup other l := by
  induction l with
  | nil => simp [put, lookup]
  | cons head rest ih =>
    obtain ⟨k, v⟩ := head
    simp only [put]
    split
    · simp [lookup]
    · split
      case isTrue heq =>
        subst heq
        by_cases h : k = other <;> simp [lookup, h]
      case isFalse hne =>
        simp only [lookup, ih]
        by_cases h : k = other
        · subst h
          simp [Ne.symm hne]
        · simp [h]

/-- Under the key just put stands the value put; every other key keeps its value. -/
theorem get?_insert (d : Dictionary α) (key other : String) (value : α) :
    (d.insert key value).get? other = if key = other then some value else d.get? other :=
  lookup_put key other value d.entries

@[simp] theorem get?_empty (key : String) : (empty : Dictionary α).get? key = none := rfl

end Dictionary

end RouterConfig
