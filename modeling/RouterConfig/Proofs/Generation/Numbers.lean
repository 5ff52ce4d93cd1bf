/-
RouterConfig.Proofs.Generation.Numbers — the numbers that rule sets get.

After `n` numbers a sequence stands at its start and `n` steps, or it is
exhausted (`RuleCounter.position`). Making a sequence and taking a number
move one rule set and leave the others (`make_ok`, `next_ok`).
-/
import RouterConfig.Proofs.Definition.Edits
import RouterConfig.Proofs.Text.Numerals
import RouterConfig.RuleCounter

namespace RouterConfig

/-! ## 1. The text of a number -/

namespace Text

theorem ofNat_ne_placeholder (n : Nat) : ofNat n ≠ placeholder := by
  intro h
  have hmem : 'n' ∈ (ofNat n).toList := by
    rw [h]
    decide
  have := isDigit_of_mem_ofNat hmem
  revert this
  decide

end Text

/-! ## 2. One sequence -/

namespace RuleCounter

/-- The sequence from `start` by `step` after `n` numbers have been taken. -/
def position (start step : UInt32) (n : Nat) : RuleCounter where
  step
  upcoming :=
    if start.toNat + n * step.toNat < UInt32.size
    then some (UInt32.ofNat (start.toNat + n * step.toNat)) else none

theorem position_zero (start step : UInt32) : position start step 0 = ⟨step, some start⟩ := by
  have h : start.toNat < UInt32.size := start.toNat_lt_size
  simp [position, h]

/-- The number that is next is the start and so many steps more. -/
theorem toNat_of_upcoming {start step number : UInt32} {n : Nat}
    (h : (position start step n).upcoming = some number) :
    number.toNat = start.toNat + n * step.toNat := by
  unfold position at h
  simp only at h
  split at h
  case isTrue hlt =>
    obtain rfl := Option.some.inj h
    exact UInt32.toNat_ofNat_of_lt' hlt
  case isFalse => cases h

/-- Taking a number moves the sequence one step on. -/
theorem advance_position (start step : UInt32) (n : Nat) :
    (position start step n).advance = position start step (n + 1) := by
  have hnext : start.toNat + n * step.toNat + step.toNat
      = start.toNat + (n + 1) * step.toNat := by
    rw [Nat.add_mul, Nat.one_mul, Nat.add_assoc]
  by_cases hlt : start.toNat + n * step.toNat < UInt32.size
  · have hto : (UInt32.ofNat (start.toNat + n * step.toNat)).toNat
        = start.toNat + n * step.toNat := UInt32.toNat_ofNat_of_lt' hlt
    simp only [advance, position, if_pos hlt, Option.bind_some, addWithin, hto, hnext]
    by_cases hlt' : start.toNat + (n + 1) * step.toNat < UInt32.size
    · rw [if_pos hlt', if_pos hlt']
      congr 2
      refine UInt32.toNat_inj.mp ?_
      rw [UInt32.toNat_add, hto, hnext, UInt32.toNat_ofNat_of_lt' hlt']
      exact Nat.mod_eq_of_lt hlt'
    · rw [if_neg hlt', if_neg hlt']
  · have hlt' : ¬ start.toNat + (n + 1) * step.toNat < UInt32.size := by omega
    simp only [advance, position, if_neg hlt, if_neg hlt', Option.bind_none]

end RuleCounter

/-! ## 3. The sequences of a run -/

namespace RuleCounters

theorem get?_put (counters : RuleCounters) (name other : RuleSet) (counter : RuleCounter) :
    (counters.put name counter).get? other
      = if name = other then some counter else counters.get? other := by
  cases name with
  | firewall n =>
    cases other with
    | firewall m => simp [put, get?, Dictionary.get?_insert]
    | nat => rfl
  | nat => cases other <;> rfl

theorem contains_put (counters : RuleCounters) (name other : RuleSet) (counter : RuleCounter) :
    (counters.put name counter).contains other
      = (decide (name = other) || counters.contains other) := by
  rw [contains, get?_put, contains]
  by_cases h : name = other <;> simp [h]

theorem make_apply (name : RuleSet) (start step : UInt32) (counters : RuleCounters) :
    make name start step counters =
      if counters.contains name then .ok false counters
      else if step = 0 then .error (.zeroStep name) counters
      else .ok true (counters.put name ⟨step, some start⟩) := by
  simp only [make, get_bind]
  split
  · rfl
  · split <;> rfl

theorem next_apply (name : RuleSet) (counters : RuleCounters) :
    next name counters = match counters.get? name with
      | none => .error (.unknown name) counters
      | some counter =>
        match counter.upcoming with
        | none => .error (.exhausted name) counters
        | some number => .ok number (counters.put name counter.advance) := by
  simp only [next, get_bind]
  cases counters.get? name with
  | none => rfl
  | some counter =>
    cases hupcoming : counter.upcoming with
    | none => simp only [hupcoming]; rfl
    | some number => simp only [hupcoming]; rfl

/-- A rule set without a sequence gets one at its start, with a step other than zero; one that has a
sequence keeps it. -/
theorem make_ok {name : RuleSet} {start step : UInt32} {counters counters' : RuleCounters}
    {made : Bool} (h : make name start step counters = .ok made counters') :
    (∃ counter, counters.get? name = some counter ∧ counters' = counters) ∨
      counters.get? name = none ∧ step ≠ 0 ∧ counters' = counters.put name ⟨step, some start⟩ := by
  rw [make_apply] at h
  cases hget : counters.get? name with
  | some counter =>
    rw [if_pos (by rw [contains, hget, Option.isSome_some])] at h
    cases h
    exact .inl ⟨counter, rfl, rfl⟩
  | none =>
    rw [if_neg (by simp [contains, hget])] at h
    by_cases hstep : step = 0
    · rw [if_pos hstep] at h
      cases h
    · rw [if_neg hstep] at h
      cases h
      exact .inr ⟨rfl, hstep, rfl⟩

/-- The number taken is the upcoming one, and the sequence moves on. -/
theorem next_ok {name : RuleSet} {counters counters' : RuleCounters} {number : UInt32}
    (h : next name counters = .ok number counters') :
    ∃ counter, counters.get? name = some counter ∧ counter.upcoming = some number ∧
      counters' = counters.put name counter.advance := by
  rw [next_apply] at h
  cases hget : counters.get? name with
  | none =>
    rw [hget] at h
    cases h
  | some counter =>
    rw [hget] at h
    cases hup : counter.upcoming with
    | none =>
      simp only [hup] at h
      cases h
    | some n =>
      simp only [hup] at h
      cases h
      exact ⟨counter, rfl, hup, rfl⟩

end RuleCounters

end RouterConfig
