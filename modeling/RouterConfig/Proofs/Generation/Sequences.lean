/-
RouterConfig.Proofs.Generation.Sequences — the sequences of rule numbers
under any calls.

`sequences_of_calls`: what any run of calls answers of a rule set.

* Until a call gives it a sequence, the rule set is `Unnumbered`, and each
  call for a number is answered with the error that it is unknown.
* From the first such call on it is `Numbered`: the calls for a number get
  the start and one step more each time (`numberAt`), as long as these have
  32 bits, and no later call makes the sequence anew.
* So the numbers of a run ascend, and none follows once they are exhausted.
* The calls on other rule sets could as well not have been made.

## How the proof goes

One call moves at most the sequence that it names (`get?_perform`), and what
it answers of a rule set depends on the sequence of this rule set alone
(`perform_congr`). So the calls on other rule sets can be left out of a run
(`run_about`, by induction on the calls). What is left is told by the first
call that gives the rule set a sequence and by how often a number has been
asked for since (`run_fruitless`, `run_numbered`).

## Side conditions

There are none: the calls are any list, from no sequences at all. A call
that would make a sequence with step zero is refused and changes nothing, so
it is counted among those in vain (`Fruitless`).
-/
import RouterConfig.Proofs.Definition.Consistency
import RouterConfig.Proofs.Generation.Numbers

namespace RouterConfig.RuleCounters

/-! ## 1. Calls and their answers -/

/-- A call on the sequences. -/
inductive Call where
  | make (name : RuleSet) (start step : UInt32)
  | has (name : RuleSet)
  | next (name : RuleSet)
  | peek (name : RuleSet)
  | names
  deriving DecidableEq, Repr

/-- What a call answers. -/
inductive Answer where
  | made (result : Except CounterError Bool)
  | has (registered : Bool)
  | number (result : Except CounterError UInt32)
  | names (listed : List RuleSet)
  deriving Repr

/-- The rule set that a call names. -/
def Call.subject? : Call → Option RuleSet
  | .make name _ _ => some name
  | .has name => some name
  | .next name => some name
  | .peek name => some name
  | .names => none

/-- Whether a call names the rule set. -/
def Call.about (name : RuleSet) (call : Call) : Bool := call.subject? == some name

/-- What comes out of a change, failed or not, and the sequences after it. -/
def settle {α : Type} (counting : Counting α) (counters : RuleCounters) :
    Except CounterError α × RuleCounters :=
  match counting counters with
  | .ok a counters' => (.ok a, counters')
  | .error e counters' => (.error e, counters')

/-- The answer to a call, and the sequences after it. -/
def Call.perform (counters : RuleCounters) : Call → Answer × RuleCounters
  | .make name start step => (settle (RuleCounters.make name start step) counters).map .made id
  | .has name => (.has (counters.contains name), counters)
  | .next name => (settle (RuleCounters.next name) counters).map .number id
  | .peek name => (.number (counters.peek name), counters)
  | .names => (.names counters.names, counters)

/-- The calls of a run with their answers. -/
def answers (counters : RuleCounters) : List Call → List (Call × Answer)
  | [] => []
  | call :: calls =>
    (call, (call.perform counters).1) :: answers (call.perform counters).2 calls

/-- The sequences after a run. -/
def after (counters : RuleCounters) (calls : List Call) : RuleCounters :=
  calls.foldl (fun counters call => (call.perform counters).2) counters

/-- What a run answers to the calls for the next number of a rule set. -/
def numbers (name : RuleSet) (trace : List (Call × Answer)) : List (Except CounterError UInt32) :=
  trace.filterMap fun
    | (.next other, .number result) => if other = name then some result else none
    | _ => none

/-! ## 2. What a run should answer -/

/-- No call gives the rule set a sequence: each that would has a step of zero. -/
def Fruitless (name : RuleSet) (calls : List Call) : Prop :=
  ∀ start step, .make name start step ∈ calls → step = 0

/-- The number in place `i` of a sequence, as long as it has 32 bits. -/
def numberAt (name : RuleSet) (start step : UInt32) (i : Nat) : Except CounterError UInt32 :=
  if start.toNat + i * step.toNat < UInt32.size then
    .ok (UInt32.ofNat (start.toNat + i * step.toNat))
  else .error (.exhausted name)

/-- The rule set has no sequence. -/
structure Unnumbered (name : RuleSet) (counters : RuleCounters) : Prop where
  has : counters.contains name = false
  listed : name ∉ counters.names
  next : RuleCounters.next name counters = .error (.unknown name) counters
  peek : counters.peek name = .error (.unknown name)
  zeroStep : ∀ start, make name start 0 counters = .error (.zeroStep name) counters
  make : ∀ start step, step ≠ 0 → ∃ counters',
    make name start step counters = .ok true counters' ∧ counters'.contains name = true

/-- The rule set has a sequence, and `taken` numbers have been taken from it. -/
structure Numbered (name : RuleSet) (start step : UInt32) (taken : Nat)
    (counters : RuleCounters) : Prop where
  has : counters.contains name = true
  listed : name ∈ counters.names
  next : (settle (RuleCounters.next name) counters).1 = numberAt name start step taken
  peek : counters.peek name = numberAt name start step taken
  make : ∀ start' step', make name start' step' counters = .ok false counters

variable {name other : RuleSet} {start step : UInt32} {counters counters' : RuleCounters}

/-! ## 3. One call -/

theorem get?_empty (name : RuleSet) : ({} : RuleCounters).get? name = none := by
  cases name <;> rfl

theorem mem_names : name ∈ counters.names ↔ counters.contains name = true := by
  cases name with
  | firewall n => simp [names, contains, get?, Dictionary.mem_keys, Option.isSome_iff_exists]
  | nat => simp [names, contains, get?]

theorem settle_make : settle (make name start step) counters =
    if counters.contains name then (.ok false, counters)
    else if step = 0 then (.error (.zeroStep name), counters)
    else (.ok true, counters.put name ⟨step, some start⟩) := by
  by_cases hname : counters.contains name = true
  · simp [settle, make_apply, hname]
  · by_cases hstep : step = 0 <;> simp [settle, make_apply, hname, hstep]

/-- The next number is the one that a look at the sequence shows. -/
theorem settle_next : (settle (next name) counters).1 = counters.peek name := by
  rw [settle, next_apply, peek]
  cases counters.get? name with
  | none => rfl
  | some counter =>
    obtain ⟨step, upcoming⟩ := counter
    cases upcoming <;> rfl

theorem get?_settle_make : (settle (make other start step) counters).2.get? name =
    if other = name ∧ step ≠ 0 then (counters.get? name).or (some ⟨step, some start⟩)
    else counters.get? name := by
  rw [settle_make, contains]
  cases hother : counters.get? other with
  | some counter =>
    rw [Option.isSome_some, if_pos rfl]
    split
    case isTrue h => rw [← h.1, hother, Option.some_or]
    case isFalse => rfl
  | none =>
    rw [Option.isSome_none, if_neg Bool.false_ne_true]
    by_cases hstep : step = 0
    · rw [if_pos hstep, if_neg (fun h => h.2 hstep)]
    · rw [if_neg hstep, get?_put]
      by_cases hname : other = name
      · rw [if_pos hname, if_pos ⟨hname, hstep⟩, ← hname, hother, Option.none_or]
      · rw [if_neg hname, if_neg (fun h => hname h.1)]

/-- A sequence that is exhausted is not moved by a further call for a number. -/
theorem get?_settle_next : (settle (next other) counters).2.get? name =
    if other = name then (counters.get? name).map RuleCounter.advance
    else counters.get? name := by
  rw [settle, next_apply]
  by_cases hname : other = name
  · subst hname
    rw [if_pos rfl]
    cases hget : counters.get? other with
    | none => exact hget
    | some counter =>
      obtain ⟨step, upcoming⟩ := counter
      cases upcoming with
      | none => exact hget
      | some number => exact (get?_put ..).trans (if_pos rfl)
  · rw [if_neg hname]
    cases counters.get? other with
    | none => rfl
    | some counter =>
      obtain ⟨step, upcoming⟩ := counter
      cases upcoming with
      | none => rfl
      | some number => exact (get?_put ..).trans (if_neg hname)

/-- What one call does to the sequence of a rule set. -/
theorem get?_perform (call : Call) : (call.perform counters).2.get? name = match call with
    | .make other start step =>
      if other = name ∧ step ≠ 0 then (counters.get? name).or (some ⟨step, some start⟩)
      else counters.get? name
    | .next other =>
      if other = name then (counters.get? name).map RuleCounter.advance else counters.get? name
    | _ => counters.get? name := by
  cases call with
  | make => exact get?_settle_make
  | next => exact get?_settle_next
  | has => rfl
  | peek => rfl
  | names => rfl

/-- A call leaves the sequences of the rule sets that it does not name. -/
theorem get?_perform_of_not_about {call : Call} (h : call.about name = false) :
    (call.perform counters).2.get? name = counters.get? name := by
  rw [get?_perform]
  cases call with
  | make other start step =>
    have hother : other ≠ name := by simpa [Call.about, Call.subject?] using h
    exact if_neg fun h => hother h.1
  | next other =>
    have hother : other ≠ name := by simpa [Call.about, Call.subject?] using h
    exact if_neg hother
  | has => rfl
  | peek => rfl
  | names => rfl

/-- What a call answers of a rule set depends on the sequence of this rule set alone. -/
theorem perform_congr {call : Call} (h : call.about name = true)
    (hget : counters.get? name = counters'.get? name) :
    (call.perform counters).1 = (call.perform counters').1 ∧
      (call.perform counters).2.get? name = (call.perform counters').2.get? name := by
  constructor
  · cases call with
    | make other start step =>
      obtain rfl : other = name := by simpa [Call.about, Call.subject?] using h
      simp only [Call.perform, Prod.map_fst, settle_make, contains, hget]
      by_cases hname : (counters'.get? other).isSome = true
      · simp [hname]
      · by_cases hstep : step = 0 <;> simp [hname, hstep]
    | has other =>
      obtain rfl : other = name := by simpa [Call.about, Call.subject?] using h
      simp only [Call.perform, contains, hget]
    | next other =>
      obtain rfl : other = name := by simpa [Call.about, Call.subject?] using h
      simp only [Call.perform, Prod.map_fst, settle_next, peek, hget]
    | peek other =>
      obtain rfl : other = name := by simpa [Call.about, Call.subject?] using h
      simp only [Call.perform, peek, hget]
    | names => simp [Call.about, Call.subject?] at h
  · rw [get?_perform, get?_perform, hget]

/-! ## 4. A run -/

/-- **The calls on other rule sets can be left out of a run:** it answers the same of this one. -/
theorem run_about (calls : List Call) (hget : counters.get? name = counters'.get? name) :
    (answers counters calls).filter (·.1.about name) =
        answers counters' (calls.filter (·.about name)) ∧
      (after counters calls).get? name =
        (after counters' (calls.filter (·.about name))).get? name := by
  induction calls generalizing counters counters' with
  | nil => exact ⟨rfl, hget⟩
  | cons call calls ih =>
    cases hcall : call.about name with
    | true =>
      obtain ⟨hanswer, hafter⟩ := perform_congr hcall hget
      obtain ⟨hanswers, hrest⟩ := ih hafter
      simp only [answers, List.filter_cons, hcall, if_true, hanswers, hanswer]
      exact ⟨trivial, hrest⟩
    | false =>
      have hafter := (get?_perform_of_not_about hcall).trans hget
      obtain ⟨hanswers, hrest⟩ := ih hafter
      simp only [answers, List.filter_cons, hcall, Bool.false_eq_true, if_false]
      exact ⟨hanswers, hrest⟩

theorem answers_append (xs ys : List Call) :
    answers counters (xs ++ ys) = answers counters xs ++ answers (after counters xs) ys := by
  induction xs generalizing counters with
  | nil => rfl
  | cons call xs ih => simp only [List.cons_append, answers, ih, after, List.foldl_cons]

theorem after_append (xs ys : List Call) :
    after counters (xs ++ ys) = after (after counters xs) ys :=
  List.foldl_append

theorem numbers_cons (call : Call) (calls : List Call) :
    numbers name (answers counters (call :: calls)) =
      (if call = .next name then [counters.peek name] else []) ++
        numbers name (answers (call.perform counters).2 calls) := by
  rw [answers, numbers, List.filterMap_cons]
  cases call with
  | next other =>
    by_cases hother : other = name
    · subst hother
      simp only [Call.perform, Prod.map_fst, settle_next, if_true]
      rfl
    · have hcall : (Call.next other) ≠ .next name := by simpa using hother
      simp only [Call.perform, Prod.map_fst, if_neg hother, if_neg hcall]
      rfl
  | make => rfl
  | has => rfl
  | peek => rfl
  | names => rfl

/-! ### Before the rule set has a sequence -/

theorem get?_perform_fruitless (hget : counters.get? name = none) {call : Call}
    (h : ∀ start step, call = .make name start step → step = 0) :
    (call.perform counters).2.get? name = none := by
  rw [get?_perform]
  cases call with
  | make other start step =>
    refine (if_neg ?_).trans hget
    rintro ⟨rfl, hstep⟩
    exact hstep (h start step rfl)
  | next other =>
    dsimp only
    rw [hget, Option.map_none, ite_self]
  | has => exact hget
  | peek => exact hget
  | names => exact hget

theorem run_fruitless {calls : List Call} (hget : counters.get? name = none)
    (h : Fruitless name calls) : (after counters calls).get? name = none ∧
      numbers name (answers counters calls) =
        .replicate (calls.count (.next name)) (.error (.unknown name)) := by
  induction calls generalizing counters with
  | nil => exact ⟨hget, rfl⟩
  | cons call calls ih =>
    have hnext := get?_perform_fruitless hget
      (fun start step hcall => h start step (hcall ▸ List.mem_cons_self))
    obtain ⟨hafter, hnumbers⟩ :=
      ih hnext (fun start step hmem => h start step (List.mem_cons_of_mem _ hmem))
    have hpeek : counters.peek name = .error (.unknown name) := by rw [peek, hget]
    refine ⟨hafter, ?_⟩
    rw [numbers_cons, hnumbers, hpeek]
    by_cases hcall : call = .next name
    · rw [if_pos hcall, hcall, List.count_cons_self, List.replicate_succ]
      rfl
    · rw [if_neg hcall, List.count_cons_of_ne hcall]
      rfl

/-! ### Once it has one -/

theorem peek_position {i : Nat} (hget : counters.get? name = some (.position start step i)) :
    counters.peek name = numberAt name start step i := by
  simp only [peek, hget, numberAt, RuleCounter.position]
  by_cases h : start.toNat + i * step.toNat < UInt32.size
  · simp only [h, if_true]
  · simp only [h, if_false]

theorem get?_perform_position {i : Nat} (hget : counters.get? name = some (.position start step i))
    (call : Call) : (call.perform counters).2.get? name =
      some (.position start step (if call = .next name then i + 1 else i)) := by
  rw [get?_perform]
  cases call with
  | make other start step =>
    dsimp only
    rw [hget, Option.some_or, ite_self, if_neg (by simp)]
  | next other =>
    dsimp only
    rw [hget, Option.map_some, RuleCounter.advance_position]
    by_cases hother : other = name
    · rw [if_pos hother, if_pos (by rw [hother])]
    · rw [if_neg hother, if_neg (by simpa using hother)]
  | has => exact hget.trans (by rw [if_neg (by simp)])
  | peek => exact hget.trans (by rw [if_neg (by simp)])
  | names => exact hget.trans (by rw [if_neg (by simp)])

theorem run_position {i : Nat} (hget : counters.get? name = some (.position start step i))
    (calls : List Call) :
    (after counters calls).get? name =
        some (.position start step (i + calls.count (.next name))) ∧
      numbers name (answers counters calls) =
        (List.range' i (calls.count (.next name))).map (numberAt name start step) := by
  induction calls generalizing counters i with
  | nil => exact ⟨hget, rfl⟩
  | cons call calls ih =>
    have hnext := get?_perform_position hget call
    obtain ⟨hafter, hnumbers⟩ := ih hnext
    rw [numbers_cons, hnumbers, peek_position hget]
    by_cases hcall : call = .next name
    · rw [if_pos hcall] at hafter ⊢
      rw [if_pos hcall, hcall, List.count_cons_self, List.range'_succ, List.map_cons]
      rw [Nat.add_assoc, Nat.add_comm 1, hcall] at hafter
      exact ⟨hafter, rfl⟩
    · rw [if_neg hcall] at hafter ⊢
      rw [if_neg hcall, List.count_cons_of_ne hcall]
      exact ⟨hafter, rfl⟩

/-! ## 5. What a run answers -/

theorem unnumbered_of_get? (hget : counters.get? name = none) : Unnumbered name counters := by
  have hcontains : counters.contains name = false := by rw [contains, hget, Option.isSome_none]
  constructor
  case has => exact hcontains
  case listed => simp [mem_names, hcontains]
  case next => rw [next_apply, hget]
  case peek => rw [peek, hget]
  case zeroStep =>
    intro start
    rw [make_apply, if_neg (by simp [hcontains]), if_pos rfl]
  case make =>
    intro start step hstep
    refine ⟨counters.put name ⟨step, some start⟩, ?_, by simp [contains_put]⟩
    rw [make_apply, if_neg (by simp [hcontains]), if_neg hstep]

theorem numbered_of_get? {i : Nat} (hget : counters.get? name = some (.position start step i)) :
    Numbered name start step i counters := by
  have hcontains : counters.contains name = true := by rw [contains, hget, Option.isSome_some]
  constructor
  case has => exact hcontains
  case listed => exact mem_names.mpr hcontains
  case next => rw [settle_next, peek_position hget]
  case peek => exact peek_position hget
  case make =>
    intro start' step'
    rw [make_apply, if_pos hcontains]

theorem numberAt_exhausted {i j : Nat} (hij : i ≤ j)
    (h : numberAt name start step i = .error (.exhausted name)) :
    numberAt name start step j = .error (.exhausted name) := by
  rw [numberAt] at h ⊢
  split at h
  case isTrue => cases h
  case isFalse hnot =>
    have hle := Nat.mul_le_mul_right step.toNat hij
    rw [if_neg (by omega)]

theorem toNat_of_numberAt {i : Nat} {number : UInt32}
    (h : numberAt name start step i = .ok number) :
    number.toNat = start.toNat + i * step.toNat := by
  rw [numberAt] at h
  split at h
  case isTrue hlt =>
    cases h
    exact UInt32.toNat_ofNat_of_lt' hlt
  case isFalse => cases h

theorem numberAt_lt (hstep : step ≠ 0) {i j : Nat} (hij : i < j) {m n : UInt32}
    (hm : numberAt name start step i = .ok m) (hn : numberAt name start step j = .ok n) :
    m < n := by
  have hpos : 0 < step.toNat := by
    rw [Nat.pos_iff_ne_zero]
    exact fun hzero => hstep (UInt32.toNat_inj.mp hzero)
  have hlt := Nat.mul_lt_mul_of_pos_right hij hpos
  rw [UInt32.lt_iff_toNat_lt, toNat_of_numberAt hm, toNat_of_numberAt hn]
  omega

/-- The numbers of a run in which a rule set gets a sequence. -/
theorem run_numbered {before later : List Call} (hstep : step ≠ 0) (h : Fruitless name before) :
    (after {} (before ++ .make name start step :: later)).get? name =
        some (.position start step (later.count (.next name))) ∧
      numbers name (answers {} (before ++ .make name start step :: later)) =
        .replicate (before.count (.next name)) (.error (.unknown name)) ++
          (List.range (later.count (.next name))).map (numberAt name start step) := by
  obtain ⟨hbefore, hunknown⟩ := run_fruitless (get?_empty name) h
  have hmade : ((Call.make name start step).perform (after {} before)).2.get? name =
      some (.position start step 0) := by
    rw [get?_perform]
    dsimp only
    rw [if_pos ⟨rfl, hstep⟩, hbefore, Option.none_or, RuleCounter.position_zero]
  obtain ⟨hlater, hnumbers⟩ := run_position hmade later
  rw [Nat.zero_add] at hlater
  constructor
  · rw [after_append]
    exact hlater
  · rw [answers_append, numbers, List.filterMap_append, ← numbers, ← numbers, hunknown,
      numbers_cons, if_neg (by simp), hnumbers, List.nil_append, List.range_eq_range']

/-- A run gives the rule set no sequence, or there is a first call that does. -/
theorem fruitless_or (name : RuleSet) (calls : List Call) : Fruitless name calls ∨
    ∃ before start step later, calls = before ++ .make name start step :: later ∧
      Fruitless name before ∧ step ≠ 0 := by
  induction calls with
  | nil => exact .inl fun start step hmem => absurd hmem List.not_mem_nil
  | cons call calls ih =>
    by_cases hcall : ∀ start step, call = .make name start step → step = 0
    · have hcons : ∀ {cs}, Fruitless name cs → Fruitless name (call :: cs) := by
        intro cs hcs start step hmem
        exact (List.mem_cons.mp hmem).elim (fun heq => hcall start step heq.symm) (hcs start step)
      rcases ih with hnone | ⟨before, start, step, later, rfl, hbefore, hstep⟩
      · exact .inl (hcons hnone)
      · exact .inr ⟨call :: before, start, step, later, rfl, hcons hbefore, hstep⟩
    · obtain ⟨start, step, rfl, hstep⟩ : ∃ start step, call = .make name start step ∧ step ≠ 0 := by
        simpa using hcall
      exact .inr ⟨[], start, step, calls, rfl, fun _ _ hmem => absurd hmem List.not_mem_nil, hstep⟩

/-- The numbers of a sequence come in ascending order, and none after the last. -/
theorem pairwise_numbers {given : List (Except CounterError UInt32)} {unknown taken : Nat}
    (hstep : step ≠ 0) (h : given = .replicate unknown (.error (.unknown name)) ++
      (List.range taken).map (numberAt name start step)) :
    given.Pairwise (fun earlier later => earlier = .error (.exhausted name) →
        later = .error (.exhausted name)) ∧
      (given.filterMap Except.toOption).Pairwise (· < ·) := by
  rw [h]
  constructor
  · refine List.pairwise_append.mpr ⟨?_, ?_, ?_⟩
    · exact List.pairwise_replicate.mpr (.inr (by simp))
    · rw [List.pairwise_map]
      exact List.pairwise_lt_range.imp fun hij => numberAt_exhausted (Nat.le_of_lt hij)
    · intro earlier hmem later _ hexhausted
      rw [List.eq_of_mem_replicate hmem] at hexhausted
      simp at hexhausted
  · have hunknown : (List.replicate unknown (.error (.unknown name) :
        Except CounterError UInt32)).filterMap Except.toOption = [] := by
      rw [List.filterMap_eq_nil_iff]
      intro result hmem
      rw [List.eq_of_mem_replicate hmem]
      rfl
    have hsome : ∀ {result : Except CounterError UInt32} {number : UInt32},
        result.toOption = some number → result = .ok number := by
      intro result number hresult
      cases result with
      | error => cases hresult
      | ok m => exact congrArg Except.ok (Option.some.inj hresult)
    rw [List.filterMap_append, hunknown, List.nil_append, List.filterMap_map,
      List.pairwise_filterMap]
    refine List.pairwise_lt_range.imp ?_
    intro i j hij m hm n hn
    exact numberAt_lt hstep hij (hsome hm) (hsome hn)

/-- **What any run answers of a rule set.** Until a call gives it a sequence, it has none. From then
on the calls for a number get the start and one step more each time, as long as these have 32 bits;
a look at the sequence shows the number that is next, and no call makes it anew. So the numbers of
a run ascend, and none follows once they are exhausted. The calls on other rule sets could as well
not have been made. -/
theorem sequences_of_calls (name : RuleSet) (calls : List Call) :
    (Fruitless name calls → Unnumbered name (after {} calls) ∧
      numbers name (answers {} calls) =
        .replicate (calls.count (.next name)) (.error (.unknown name))) ∧
    (∀ before start step later, calls = before ++ .make name start step :: later →
      Fruitless name before → step ≠ 0 →
      Numbered name start step (later.count (.next name)) (after {} calls) ∧
      numbers name (answers {} calls) =
        .replicate (before.count (.next name)) (.error (.unknown name)) ++
          (List.range (later.count (.next name))).map (numberAt name start step)) ∧
    (numbers name (answers {} calls)).Pairwise
      (fun earlier later => earlier = .error (.exhausted name) →
        later = .error (.exhausted name)) ∧
    ((numbers name (answers {} calls)).filterMap Except.toOption).Pairwise (· < ·) ∧
    (answers {} calls).filter (·.1.about name) = answers {} (calls.filter (·.about name)) := by
  refine ⟨?_, ?_, ?_⟩
  · intro h
    obtain ⟨hafter, hnumbers⟩ := run_fruitless (get?_empty name) h
    exact ⟨unnumbered_of_get? hafter, hnumbers⟩
  · rintro before start step later rfl h hstep
    obtain ⟨hafter, hnumbers⟩ := run_numbered hstep h
    exact ⟨numbered_of_get? hafter, hnumbers⟩
  · refine and_assoc.mp ⟨?_, (run_about calls rfl).1⟩
    rcases fruitless_or name calls with h | ⟨before, start, step, later, rfl, h, hstep⟩
    · have hnumbers : numbers name (answers {} calls) =
          .replicate (calls.count (.next name)) (.error (.unknown name)) ++
            (List.range 0).map (numberAt name 0 1) := by
        rw [(run_fruitless (get?_empty name) h).2, List.range_zero, List.map_nil, List.append_nil]
      exact pairwise_numbers (by decide) hnumbers
    · exact pairwise_numbers hstep (run_numbered hstep h).2

/-- A sequence made after calls in vain, near the end of the 32-bit numbers and beside a rule set
whose name reads like its own. -/
theorem sequences_of_calls_nat :
    let calls : List Call :=
      [.next .nat, .make .nat 10 0] ++ .make .nat 4294967290 4 ::
        [.next .nat, .make (.firewall "<nat>") 1 1, .next (.firewall "<nat>"), .next .nat]
    numbers .nat (answers {} calls) =
        [.error (.unknown .nat), .ok 4294967290, .ok 4294967294] ∧
      (after {} calls).peek .nat = .error (.exhausted .nat) := by
  intro calls
  have hfruitless : Fruitless .nat [.next .nat, .make .nat 10 0] := by
    simp [Fruitless]
  obtain ⟨hnumbered, hnumbers⟩ :=
    (sequences_of_calls .nat calls).2.1 _ _ _ _ rfl hfruitless (by decide)
  constructor
  · rw [hnumbers]
    decide +kernel
  · rw [hnumbered.peek]
    decide +kernel

end RouterConfig.RuleCounters
