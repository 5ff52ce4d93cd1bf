/-
RouterConfig.Proofs.Generation.Outcome — which lenient runs succeed, and
with which tree.

A lenient run only warns of a second value, so it stops for two reasons:
a rule gets no number, or a value and a definition below it are wanted at
once. `Feasible` and `Demand.Compatible` say that neither happens, of the
list of requests alone. `Stage` is the invariant of a run: its tree meets
the demands so far, and its sequences stand where the rules so far have
brought them. Each request takes a run to the next stage, or is one of the
two reasons to stop.
-/
import RouterConfig.Proofs.Definition.Policy
import RouterConfig.Proofs.Generation.Requests

namespace RouterConfig

namespace Generation

open Definitions Demand

/-! ## 1. Requests that get their numbers -/

/-- A sequence has a step to go on by, and a rule finds a sequence with a number left. -/
def Request.Feasible (settings : Settings) (made taken : List RuleSet) : Request → Prop
  | .sequence name => (settings.numbers name).ruleStep ≠ 0
  | .demand _ | .action _ _ => True
  | .rule name _ => name ∈ made ∧ settings.ruleNumber name (taken.count name) < UInt32.size

/-- Each request gets its number after the ones before it, if there are sequences for the rule sets
`made`, and numbers have been taken from those of `taken`. -/
def Feasible (settings : Settings) (made taken : List RuleSet) : List Request → Prop
  | [] => True
  | r :: rest =>
    r.Feasible settings made taken ∧ Feasible settings (made ++ r.makes) (taken ++ r.takes) rest

instance (settings : Settings) (made taken : List RuleSet) (r : Request) :
    Decidable (r.Feasible settings made taken) :=
  match r with
  | .sequence name => inferInstanceAs (Decidable ((settings.numbers name).ruleStep ≠ 0))
  | .demand _ | .action _ _ => inferInstanceAs (Decidable True)
  | .rule name _ => inferInstanceAs (Decidable
    (name ∈ made ∧ settings.ruleNumber name (taken.count name) < UInt32.size))

instance Feasible.decidable (settings : Settings) : (made taken : List RuleSet) →
    (rs : List Request) → Decidable (Feasible settings made taken rs)
  | _, _, [] => inferInstanceAs (Decidable True)
  | made, taken, r :: rest =>
    have := decidable settings (made ++ r.makes) (taken ++ r.takes) rest
    inferInstanceAs (Decidable (r.Feasible settings made taken ∧
      Feasible settings (made ++ r.makes) (taken ++ r.takes) rest))

/-! ## 2. Stages of a run -/

/-- A lenient run with sequences for the rule sets `made` that has taken numbers from those of
`taken` and has met the demands. -/
structure Stage (settings : Settings) (made taken : List RuleSet) (ds : List Demand)
    (g : Generation) : Prop where
  meets : g.tree.Meets ds
  policy : g.tree.policy = .warn
  made : ∀ name, g.counters.contains name = true ↔ name ∈ made
  counted : Counted settings taken g.counters

variable {schema : SchemaNode} {settings : Settings} {made taken : List RuleSet}
  {ds es all : List Demand} {g g' : Generation}

/-- A lenient run has met nothing before its first step. -/
theorem Stage.start (hlenient : settings.strictPaths = false) :
    Stage settings [] [] [] (start schema settings) where
  meets := .new schema settings.policy
  policy := by simp [Generation.start, Definitions.new, Settings.policy, hlenient]
  made name := by simp [RuleCounters.contains, get?_start]
  counted := .start

/-- Demands that are gone through are met, and no sequence moves. -/
theorem demandAll_meets (h : g.tree.Meets ds) (hok : demandAll es g = .ok () g') :
    g'.tree.Meets (ds ++ es) ∧ g'.tree.policy = g.tree.policy ∧ g'.counters = g.counters := by
  have hstart : g.tree.Meets (ds ++ []) ∧ g.tree.policy = g.tree.policy ∧
      g.counters = g.counters := ⟨by rwa [List.append_nil], rfl, rfl⟩
  refine forEach_ok (I := fun done u => u.tree.Meets (ds ++ done) ∧
    u.tree.policy = g.tree.policy ∧ u.counters = g.counters) es ?_ hstart hok
  rintro d - done u u' ⟨hu, hpolicy, hcounters⟩ hstep
  obtain ⟨hedit, hsame⟩ := edit_ok hstep
  have hchanges := (keeps_demand d).changes hu.indexed hedit
  rw [← List.append_assoc]
  exact ⟨hu.edit hedit, hchanges.policy_eq.trans hpolicy, hsame.trans hcounters⟩

theorem Stage.meet (h : Stage settings made taken ds g)
    (hok : demandAll es g = .ok () g') : Stage settings made taken (ds ++ es) g' := by
  obtain ⟨hmeets, hpolicy, hcounters⟩ := demandAll_meets h.meets hok
  exact ⟨hmeets, hpolicy.trans h.policy, by rw [hcounters]; exact h.made,
    by rw [hcounters]; exact h.counted⟩

/-- Where demands are compatible, a lenient run can go through them. -/
theorem demandAll_ok (h : g.tree.Meets ds) (hpolicy : g.tree.policy = .warn)
    (hall : Compatible all) (hinitial : ds ++ es <+: all) : ∃ g', demandAll es g = .ok () g' := by
  induction es generalizing ds g with
  | nil => exact ⟨g, rfl⟩
  | cons d es ih =>
    have hinitial' : (ds ++ [d]) ++ es <+: all := by rwa [List.append_assoc]
    obtain ⟨t, hedit⟩ := h.edit_ok hpolicy hall ((List.prefix_append _ _).trans hinitial')
    have hrun : edit d.edit g = .ok () { g with tree := t } := by simp only [edit, hedit]
    have hpolicy' := ((keeps_demand d).changes h.indexed hedit).policy_eq.trans hpolicy
    obtain ⟨g', hrest⟩ := ih (g := { g with tree := t }) (h.edit hedit) hpolicy' hinitial'
    exact ⟨g', (bind_of_ok hrun).trans hrest⟩

/-! ## 3. One request -/

/-- A step that only counts leaves the demands met. -/
theorem Stage.recount {made' taken' : List RuleSet} (h : Stage settings made taken ds g)
    (htree : g'.tree = g.tree) (hmade : ∀ name, g'.counters.contains name = true ↔ name ∈ made')
    (hcounted : Counted settings taken' g'.counters) : Stage settings made' taken' ds g' :=
  ⟨by rw [htree]; exact h.meets, by rw [htree]; exact h.policy, hmade, hcounted⟩

/-- A new sequence, or the one that is there, takes no number and meets no demand. -/
theorem Stage.sequence (h : Stage settings made taken ds g) {name : RuleSet}
    (hok : (Request.sequence name).perform settings g = .ok () g') :
    (settings.numbers name).ruleStep ≠ 0 ∧ Stage settings (made ++ [name]) taken ds g' := by
  obtain ⟨b, u, hcount, hpure⟩ := bind_eq_ok.mp hok
  cases hpure
  obtain ⟨hmake, htree⟩ := count_ok hcount
  rcases RuleCounters.make_ok hmake with ⟨counter, hget, hsame⟩ | ⟨hnone, hstep, hput⟩
  · have hmem : name ∈ made := by
      rw [← h.made, RuleCounters.contains, hget, Option.isSome_some]
    refine ⟨(h.counted.counter name counter hget).1, h.recount htree ?_ ?_⟩
    · intro other
      rw [hsame, h.made, List.mem_append, List.mem_singleton]
      exact ⟨.inl, fun hother => hother.elim id fun heq => heq ▸ hmem⟩
    · rw [hsame]
      exact h.counted
  · refine ⟨hstep, h.recount htree ?_ ?_⟩
    · intro other
      rw [hput, RuleCounters.contains_put, Bool.or_eq_true, decide_eq_true_iff, h.made,
        List.mem_append, List.mem_singleton, or_comm, eq_comm]
    · rw [hput]
      exact h.counted.make hstep hnone

/-- A number that is taken is that of the next rule. -/
theorem Stage.next (h : Stage settings made taken ds g) {name : RuleSet} {number : UInt32}
    (hok : count (RuleCounters.next name) g = .ok number g') :
    name ∈ made ∧ settings.ruleNumber name (taken.count name) < UInt32.size ∧
      number = UInt32.ofNat (settings.ruleNumber name (taken.count name)) ∧
      Stage settings made (taken ++ [name]) ds g' := by
  obtain ⟨hnext, htree⟩ := count_ok hok
  obtain ⟨counter, hget, -, -⟩ := RuleCounters.next_ok hnext
  have hcontains : g.counters.contains name = true := by
    rw [RuleCounters.contains, hget, Option.isSome_some]
  obtain ⟨hstep, hif⟩ := h.counted.next hcontains
  rw [hif] at hnext
  split at hnext
  case isFalse => cases hnext
  case isTrue hlt =>
    injection hnext with hnumber hcounters
    refine ⟨(h.made name).mp hcontains, hlt, hnumber.symm, h.recount htree ?_ ?_⟩
    · intro other
      rw [← hcounters, RuleCounters.contains_put, ← h.made, Bool.or_eq_true, decide_eq_true_iff]
      exact ⟨fun hother => hother.elim (fun heq => heq ▸ hcontains) id, .inr⟩
    · rw [← hcounters]
      exact h.counted.take hstep

theorem actionPath_isRoot (name : String) : (actionPath name).isRoot = false := rfl

/-- A request that succeeds got its number, and takes the run to the next stage. -/
theorem Stage.perform (h : Stage settings made taken ds g) {r : Request}
    (hmeaning : OneMeaning (ds ++ r.demands settings taken))
    (hok : r.perform settings g = .ok () g') : r.Feasible settings made taken ∧
      Stage settings (made ++ r.makes) (taken ++ r.takes) (ds ++ r.demands settings taken) g' := by
  cases r with
  | sequence name =>
    simp only [Request.makes, Request.takes, Request.demands, List.append_nil]
    exact h.sequence hok
  | demand d =>
    simp only [Request.makes, Request.takes, Request.demands, List.append_nil]
    rw [Request.perform, ← demandAll_singleton] at hok
    exact ⟨trivial, h.meet hok⟩
  | action name text =>
    simp only [Request.makes, Request.takes, Request.demands, List.append_nil] at hmeaning ⊢
    rw [Request.perform, putShared_apply] at hok
    split at hok
    case isTrue hthere =>
      cases hok
      refine ⟨trivial, ?_, h.policy, h.made, h.counted⟩
      exact h.meets.skip hmeaning (actionPath_isRoot name) hthere
    case isFalse =>
      rw [put_eq] at hok
      exact ⟨trivial, h.meet hok⟩
  | rule name demands =>
    simp only [Request.makes, Request.takes, Request.demands, List.append_nil]
    obtain ⟨number, u, hcount, hrest⟩ := bind_eq_ok.mp hok
    obtain ⟨hmade, hlt, rfl, hstage⟩ := h.next hcount
    exact ⟨⟨hmade, hlt⟩, hstage.meet hrest⟩

/-- A request that gets its number, and whose demands are compatible with all others, succeeds. -/
theorem Stage.perform_ok (h : Stage settings made taken ds g) {r : Request}
    (hfeasible : r.Feasible settings made taken) (hall : Compatible all)
    (hinitial : ds ++ r.demands settings taken <+: all) :
    ∃ g', r.perform settings g = .ok () g' := by
  cases r with
  | sequence name =>
    have hmake := RuleCounters.make_apply name (settings.numbers name).ruleStart
      (settings.numbers name).ruleStep g.counters
    rw [if_neg hfeasible] at hmake
    have hcount : ∃ b u, count (RuleCounters.make name (settings.numbers name).ruleStart
        (settings.numbers name).ruleStep) g = .ok b u := by
      unfold count
      rw [hmake]
      cases g.counters.contains name with
      | true => exact ⟨_, _, rfl⟩
      | false => exact ⟨_, _, rfl⟩
    obtain ⟨b, u, hcount⟩ := hcount
    exact ⟨u, bind_of_ok hcount⟩
  | demand d =>
    rw [Request.perform, ← demandAll_singleton]
    exact demandAll_ok h.meets h.policy hall hinitial
  | action name text =>
    rw [Request.perform, putShared_apply]
    split
    case isTrue => exact ⟨g, rfl⟩
    case isFalse =>
      rw [put_eq]
      exact demandAll_ok h.meets h.policy hall hinitial
  | rule name demands =>
    obtain ⟨hmade, hlt⟩ := hfeasible
    obtain ⟨-, hnext⟩ := h.counted.next ((h.made name).mpr hmade)
    rw [if_pos hlt] at hnext
    have hcount : count (RuleCounters.next name) g = .ok
        (UInt32.ofNat (settings.ruleNumber name (taken.count name))) { g with
          counters := g.counters.put name (settings.sequence name (taken.count name + 1)) } := by
      simp only [count, hnext]
    obtain ⟨g', hok⟩ := demandAll_ok (h.next hcount).2.2.2.meets h.policy hall hinitial
    exact ⟨g', (bind_of_ok hcount).trans hok⟩

/-! ## 4. Whole runs -/

/-- What is gone through with success had its numbers, and takes the run to the last stage. -/
theorem Stage.run {rs : List Request} (h : Stage settings made taken ds g)
    (hmeaning : OneMeaning (ds ++ demandsFrom settings taken rs))
    (hok : performAll settings rs g = .ok () g') : Feasible settings made taken rs ∧
      g'.tree.Meets (ds ++ demandsFrom settings taken rs) := by
  induction rs generalizing made taken ds g with
  | nil =>
    cases hok
    exact ⟨trivial, by rw [demandsFrom, List.append_nil]; exact h.meets⟩
  | cons r rest ih =>
    rw [demandsFrom, ← List.append_assoc] at hmeaning ⊢
    obtain ⟨_, u, hfirst, hrest⟩ := bind_eq_ok.mp hok
    obtain ⟨hfeasible, hstage⟩ := h.perform (hmeaning.mono (List.subset_append_left _ _)) hfirst
    obtain ⟨hfeasible', hmeets⟩ := ih hstage hmeaning hrest
    exact ⟨⟨hfeasible, hfeasible'⟩, hmeets⟩

/-- Where all requests get their numbers and all demands are compatible, the run goes through. -/
theorem Stage.run_ok {rs : List Request} (h : Stage settings made taken ds g)
    (hmeaning : OneMeaning (ds ++ demandsFrom settings taken rs))
    (hfeasible : Feasible settings made taken rs)
    (hcompatible : Compatible (ds ++ demandsFrom settings taken rs)) :
    ∃ g', performAll settings rs g = .ok () g' := by
  induction rs generalizing made taken ds g with
  | nil => exact ⟨g, rfl⟩
  | cons r rest ih =>
    rw [demandsFrom, ← List.append_assoc] at hmeaning hcompatible
    obtain ⟨u, hfirst⟩ := h.perform_ok hfeasible.1 hcompatible (List.prefix_append _ _)
    obtain ⟨-, hstage⟩ := h.perform (hmeaning.mono (List.subset_append_left _ _)) hfirst
    obtain ⟨g', hrest⟩ := ih hstage hmeaning hfeasible.2 hcompatible
    exact ⟨g', (bind_of_ok hfirst).trans hrest⟩

section Lenient

variable {inventory : Inventory} (hlenient : settings.strictPaths = false)
  (hmeaning : OneMeaning (demands schema settings inventory))
include hlenient hmeaning

/-- A lenient run that succeeds got its numbers, and its tree is what the inventory demands. -/
theorem generate_meets {run : Generation} (hok : generate schema settings inventory = .ok run) :
    Feasible settings [] [] (requests schema settings inventory) ∧
      run.tree.Meets (demands schema settings inventory) := by
  have hrun := generate_ok hok
  rw [putInventory_eq] at hrun
  have hstart : Stage settings [] [] [] (start schema settings) := .start hlenient
  rw [demands, ← List.nil_append (demandsFrom _ _ _)] at hmeaning ⊢
  exact hstart.run hmeaning hrun

/-- **A lenient run in which each key means one path succeeds if and only if each rule gets a
number, and no value is wanted above another path.** -/
theorem generate_ok_iff : (∃ run, generate schema settings inventory = .ok run) ↔
    Feasible settings [] [] (requests schema settings inventory) ∧
      Compatible (demands schema settings inventory) := by
  constructor
  · rintro ⟨run, hok⟩
    obtain ⟨hfeasible, hmeets⟩ := generate_meets hlenient hmeaning hok
    exact ⟨hfeasible, hmeets.compatible hmeaning⟩
  · rintro ⟨hfeasible, hcompatible⟩
    have hstart : Stage settings [] [] [] (start schema settings) := .start hlenient
    rw [demands, ← List.nil_append (demandsFrom _ _ _)] at hmeaning hcompatible
    obtain ⟨run, hrun⟩ := hstart.run_ok hmeaning hfeasible hcompatible
    exact ⟨run, by rw [generate, putInventory_eq, hrun]⟩

end Lenient

end Generation

end RouterConfig
