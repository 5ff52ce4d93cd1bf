/-
RouterConfig.RuleCounter — numbers for rules, one sequence for each rule
set.

A sequence starts where it is told to and goes up by its step. Numbers have
32 bits; after the last one that fits, the sequence is exhausted.
-/
import RouterConfig.Dictionary
import RouterConfig.Text.Basic
import RouterConfig.Text.Integer

namespace RouterConfig

/-! ## 1. Rule sets -/

/-- What a sequence of numbers belongs to. -/
inductive RuleSet where
  /-- A firewall rule set of this name. -/
  | firewall (name : String)
  /-- The destination rules of address translation. -/
  | nat
  deriving DecidableEq, Inhabited, Repr

/-- The rule set in words. -/
def RuleSet.label : RuleSet → String
  | .firewall name => name
  | .nat => "<nat>"

/-! ## 2. One sequence -/

/-- A sequence of rule numbers. -/
structure RuleCounter where
  step : UInt32
  /-- The next number, unless the sequence is exhausted. -/
  upcoming : Option UInt32
  deriving DecidableEq, Inhabited, Repr

/-- Why there is no number. -/
inductive CounterError where
  | unknown (name : RuleSet)
  /-- A sequence needs a step other than zero. -/
  | zeroStep (name : RuleSet)
  | exhausted (name : RuleSet)
  deriving DecidableEq, Inhabited, Repr

/-- What is said of the error. -/
def CounterError.message : CounterError → String
  | .unknown name => "no rule counter named " ++ name.label
  | .zeroStep name => "rule counter " ++ name.label ++ " needs a non-zero step"
  | .exhausted name => "rule counter " ++ name.label ++ " has run out of numbers"

namespace RuleCounter

/-- The sum of two numbers, when it has 32 bits. -/
def addWithin (a b : UInt32) : Option UInt32 :=
  if a.toNat + b.toNat < UInt32.size then some (a + b) else none

/-- The sequence after its next number has been taken. -/
def advance (counter : RuleCounter) : RuleCounter :=
  { counter with upcoming := counter.upcoming.bind (addWithin · counter.step) }

end RuleCounter

/-! ## 3. All sequences of a run -/

/-- The sequences of rule numbers: those of the firewall under their names, and that of address
translation. -/
structure RuleCounters where
  firewall : Dictionary RuleCounter := ∅
  nat : Option RuleCounter := none

namespace RuleCounters

instance : Inhabited RuleCounters := ⟨{}⟩

/-- The sequence of a rule set. -/
def get? (counters : RuleCounters) : RuleSet → Option RuleCounter
  | .firewall name => counters.firewall.get? name
  | .nat => counters.nat

/-- The sequences with that of a rule set replaced. -/
def put (counters : RuleCounters) (name : RuleSet) (counter : RuleCounter) : RuleCounters :=
  match name with
  | .firewall name => { counters with firewall := counters.firewall.insert name counter }
  | .nat => { counters with nat := some counter }

/-- Whether a rule set has a sequence. -/
def contains (counters : RuleCounters) (name : RuleSet) : Bool := (counters.get? name).isSome

/-- The rule sets that have a sequence: the firewall's by name, then address translation. -/
def names (counters : RuleCounters) : List RuleSet :=
  counters.firewall.keys.map .firewall ++ (if counters.nat.isSome then [.nat] else [])

/-- A change of the sequences, which may fail. -/
abbrev Counting := EStateM CounterError RuleCounters

/-- Gives a rule set a sequence unless it has one, and answers whether it did. -/
def make (name : RuleSet) (start step : UInt32) : Counting Bool := do
  if (← get).contains name then return false
  if step = 0 then throw (.zeroStep name)
  modify (·.put name ⟨step, some start⟩)
  return true

/-- The number that a rule set would get next. -/
def peek (counters : RuleCounters) (name : RuleSet) : Except CounterError UInt32 :=
  match counters.get? name with
  | none => .error (.unknown name)
  | some counter =>
    match counter.upcoming with
    | none => .error (.exhausted name)
    | some number => .ok number

/-- Takes the next number of a rule set. -/
def next (name : RuleSet) : Counting UInt32 := do
  let counters ← get
  match counters.get? name with
  | none => throw (.unknown name)
  | some counter =>
    match counter.upcoming with
    | none => throw (.exhausted name)
    | some number =>
      set (counters.put name counter.advance)
      return number

/-- A line for each sequence with its next number. -/
def report (counters : RuleCounters) : String :=
  Text.join "\n" (counters.names.map fun name =>
    "- " ++ name.label ++ ": next=" ++
      match counters.peek name with
      | .ok number => Text.ofNat number.toNat
      | .error _ => "exhausted")

end RuleCounters

end RouterConfig
