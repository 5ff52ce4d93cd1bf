/-
RouterConfig.Proofs.Generation.Progress — runs that can fail by their rule
numbers only.

`Progress` says how far a run has come: the stems whose spots it may have
filled, and the rule sets that numbers have been taken from. A step that
`Advances` a run takes it further, or it stops because a sequence has the
step zero or has no number left (`Excused`). The spots of a numbered rule
are free because the number is new.
-/
import RouterConfig.Proofs.Generation.Footprint

namespace RouterConfig

namespace Settings

/-- Where the numbers of a rule set start, and how far they are apart. -/
def numbers (settings : Settings) : RuleSet → CounterSettings
  | .firewall _ => settings.firewall
  | .nat => ⟨settings.nat.ruleStart, settings.nat.ruleStep⟩

/-- The number of the rule at a place in its rule set. -/
def ruleNumber (settings : Settings) (name : RuleSet) (i : Nat) : Nat :=
  (settings.numbers name).ruleStart.toNat + i * (settings.numbers name).ruleStep.toNat

/-- The sequence of a rule set after some numbers. -/
def sequence (settings : Settings) (name : RuleSet) (n : Nat) : RuleCounter :=
  .position (settings.numbers name).ruleStart (settings.numbers name).ruleStep n

theorem ruleNumber_injective {settings : Settings} {name : RuleSet}
    (hstep : (settings.numbers name).ruleStep ≠ 0) {i j : Nat}
    (h : settings.ruleNumber name i = settings.ruleNumber name j) : i = j := by
  have hpos : 0 < (settings.numbers name).ruleStep.toNat := by
    rw [Nat.pos_iff_ne_zero]
    intro hzero
    exact hstep (UInt32.toNat_inj.mp hzero)
  exact Nat.eq_of_mul_eq_mul_right hpos (Nat.add_left_cancel h)

end Settings

namespace Generation

open Definitions

/-! ## 1. How far a run has come -/

/-- The sequences of a run that has taken numbers from these rule sets. -/
structure Counted (settings : Settings) (taken : List RuleSet) (counters : RuleCounters) :
    Prop where
  /-- A sequence stands where its numbers so far have brought it. -/
  counter : ∀ name counter, counters.get? name = some counter →
    (settings.numbers name).ruleStep ≠ 0 ∧ counter = settings.sequence name (taken.count name)
  untaken : ∀ name, counters.get? name = none → name ∉ taken

theorem get?_start {schema : SchemaNode} {settings : Settings} (name : RuleSet) :
    (start schema settings).counters.get? name = none := by
  cases name <;> rfl

/-- Before its first step a run has no sequences. -/
theorem Counted.start {schema : SchemaNode} {settings : Settings} :
    Counted settings [] (start schema settings).counters where
  counter name counter hget := by
    rw [get?_start] at hget
    cases hget
  untaken _ _ := List.not_mem_nil

/-- A rule set from which a number is taken has taken one number more. -/
theorem Counted.take {settings : Settings} {taken : List RuleSet} {counters : RuleCounters}
    (h : Counted settings taken counters) {name : RuleSet}
    (hstep : (settings.numbers name).ruleStep ≠ 0) : Counted settings (taken ++ [name])
      (counters.put name (settings.sequence name (taken.count name + 1))) := by
  have hself : (taken ++ [name]).count name = taken.count name + 1 := by
    simp [List.count_append]
  have hother : ∀ other, name ≠ other → (taken ++ [name]).count other = taken.count other := by
    intro other hne
    simp [List.count_append, hne]
  constructor
  · intro other counter hget
    rw [RuleCounters.get?_put] at hget
    split at hget
    case isTrue heq =>
      subst heq
      obtain rfl := Option.some.inj hget
      exact ⟨hstep, by rw [hself]⟩
    case isFalse hne =>
      rw [hother other hne]
      exact h.counter other counter hget
  · intro other hnone
    rw [RuleCounters.get?_put] at hnone
    split at hnone
    case isTrue => cases hnone
    case isFalse hne =>
      have := h.untaken other hnone
      simp [this, Ne.symm hne]

/-- A rule set with a sequence gives the number of its next rule, if that has 32 bits. -/
theorem Counted.next {settings : Settings} {taken : List RuleSet} {counters : RuleCounters}
    (h : Counted settings taken counters) {name : RuleSet}
    (hname : counters.contains name = true) :
    (settings.numbers name).ruleStep ≠ 0 ∧ RuleCounters.next name counters =
      if settings.ruleNumber name (taken.count name) < UInt32.size then
        .ok (UInt32.ofNat (settings.ruleNumber name (taken.count name)))
          (counters.put name (settings.sequence name (taken.count name + 1)))
      else .error (.exhausted name) counters := by
  obtain ⟨counter, hcounter⟩ := Option.isSome_iff_exists.mp hname
  obtain ⟨hstep, rfl⟩ := h.counter name counter hcounter
  have hmoved : (settings.sequence name (taken.count name)).advance =
      settings.sequence name (taken.count name + 1) := RuleCounter.advance_position _ _ _
  refine ⟨hstep, ?_⟩
  rw [RuleCounters.next_apply, hcounter, ← hmoved]
  by_cases hlt : settings.ruleNumber name (taken.count name) < UInt32.size
  · have hupcoming : (settings.sequence name (taken.count name)).upcoming =
        some (UInt32.ofNat (settings.ruleNumber name (taken.count name))) := if_pos hlt
    simp only [hupcoming, if_pos hlt]
  · have hupcoming : (settings.sequence name (taken.count name)).upcoming = none := if_neg hlt
    simp only [hupcoming, if_neg hlt]

/-- A new sequence stands at its start. -/
theorem Counted.make {settings : Settings} {taken : List RuleSet} {counters : RuleCounters}
    (h : Counted settings taken counters) {name : RuleSet}
    (hstep : (settings.numbers name).ruleStep ≠ 0) (hnone : counters.get? name = none) :
    Counted settings taken (counters.put name
      ⟨(settings.numbers name).ruleStep, some (settings.numbers name).ruleStart⟩) := by
  constructor
  · intro other counter hget
    rw [RuleCounters.get?_put] at hget
    split at hget
    case isTrue heq =>
      subst heq
      obtain rfl := Option.some.inj hget
      rw [List.count_eq_zero.mpr (h.untaken name hnone)]
      exact ⟨hstep, (RuleCounter.position_zero _ _).symm⟩
    case isFalse => exact h.counter other counter hget
  · intro other hother
    rw [RuleCounters.get?_put] at hother
    split at hother
    case isTrue => cases hother
    case isFalse => exact h.untaken other hother

/-- The stem of a numbered rule. -/
def Stem.IsRule : Stem → Prop
  | .rule _ _ => True
  | _ => False

/-- The spots that may hold values: those of the stems that have been used, and those of the rules
that have been numbered. -/
def occupied (settings : Settings) (used : Set Stem) (taken : List RuleSet) : Set Spot :=
  {s | s.stem ∈ used ∧ ¬ s.stem.IsRule ∨ ∃ name, ∃ i < taken.count name,
    s.stem = .rule name (Text.ofNat (settings.ruleNumber name i))}

/-- A run that has used some stems and has taken numbers from some rule sets. -/
structure Progress (settings : Settings) (actions : String → String) (used : Set Stem)
    (taken : List RuleSet) (g : Generation) : Prop where
  filled : Filled actions (occupied settings used taken) g.tree
  counted : Counted settings taken g.counters

/-- Why a run may stop that takes numbers from these rule sets. -/
inductive Excused (settings : Settings) (taken : List RuleSet) : GenerationError → Prop
  | zeroStep {name : RuleSet} : (settings.numbers name).ruleStep = 0 →
      Excused settings taken (.counter (.zeroStep name))
  | exhausted {name : RuleSet} {i : Nat} : i < taken.count name →
      UInt32.size ≤ settings.ruleNumber name i →
      Excused settings taken (.counter (.exhausted name))

variable {settings : Settings} {actions : String → String} {used used' own own' : Set Stem}
  {taken takes takes' : List RuleSet} {g g' : Generation}

theorem occupied_mono (hsub : used ⊆ used') :
    occupied settings used taken ⊆ occupied settings used' taken := by
  rintro s (⟨hs, hrule⟩ | hs)
  · exact .inl ⟨hsub hs, hrule⟩
  · exact .inr hs

theorem Progress.mono (h : Progress settings actions used taken g) (hsub : used ⊆ used') :
    Progress settings actions used' taken g where
  filled := h.filled.mono (occupied_mono hsub)
  counted := h.counted

theorem Excused.more {cause : GenerationError} (h : Excused settings taken cause)
    (takes : List RuleSet) : Excused settings (taken ++ takes) cause := by
  cases h with
  | zeroStep hstep => exact .zeroStep hstep
  | exhausted hi hsize =>
    refine .exhausted (Nat.lt_of_lt_of_le hi ?_) hsize
    rw [List.count_append]
    exact Nat.le_add_right _ _

section

variable {name : RuleSet} (hstep : (settings.numbers name).ruleStep ≠ 0)
include hstep

/-- Below the rule of the next number there are no values yet. -/
theorem disjoint_occupied :
    Disjoint
      {s : Spot | s.stem = .rule name (Text.ofNat (settings.ruleNumber name (taken.count name)))}
      (occupied settings used taken) := by
  rw [Set.disjoint_left]
  rintro s hs (⟨-, hrule⟩ | ⟨other, i, hi, hother⟩)
  · exact hrule (hs ▸ trivial)
  · obtain ⟨rfl, htext⟩ := Stem.rule.inj (hs.symm.trans hother)
    have := Settings.ruleNumber_injective hstep (Text.ofNat_injective htext)
    exact absurd this.symm (Nat.ne_of_lt hi)

/-- A run with a new rule has taken one number more. -/
theorem Progress.take (h : Progress settings actions used taken g)
    (hfilled : Filled actions (occupied settings used taken ∪
      {s | s.stem = .rule name (Text.ofNat (settings.ruleNumber name (taken.count name)))}) g'.tree)
    (hcounters : g'.counters =
      g.counters.put name (settings.sequence name (taken.count name + 1))) :
    Progress settings actions used (taken ++ [name]) g' := by
  refine ⟨hfilled.mono ?_, hcounters ▸ h.counted.take hstep⟩
  rintro s ((hused | ⟨other, i, hi, hs⟩) | hs)
  · exact .inl hused
  · refine .inr ⟨other, i, Nat.lt_of_lt_of_le hi ?_, hs⟩
    rw [List.count_append]
    exact Nat.le_add_right _ _
  · refine .inr ⟨name, taken.count name, ?_, hs⟩
    simp [List.count_append]

end

/-! ## 2. Steps that take a run further -/

/-- What has come of a run: it has come so far and lost no sequence, or has stopped for an excused
reason. -/
def Reaches (settings : Settings) (actions : String → String) (used : Set Stem)
    (taken : List RuleSet) (g : Generation) : EStateM.Result GenerationError Generation α → Prop
  | .ok _ g' => Progress settings actions used taken g' ∧
      ∀ name, g.counters.contains name = true → g'.counters.contains name = true
  | .error cause _ => Excused settings taken cause

/-- With sequences for the rule sets it needs, the step uses its own stems and takes its numbers, or
stops for an excused reason. -/
def Advances (settings : Settings) (actions : String → String) (needs : List RuleSet)
    (own : Set Stem) (takes : List RuleSet) (x : Run α) : Prop :=
  ∀ used taken g, Progress settings actions used taken g →
    (∀ name ∈ needs, g.counters.contains name = true) → Disjoint own used →
    Reaches settings actions (used ∪ own) (taken ++ takes) g (x g)

theorem Reaches.mono {r : EStateM.Result GenerationError Generation α}
    (h : Reaches settings actions used taken g r) (hsub : used ⊆ used') :
    Reaches settings actions used' taken g r := by
  cases r with
  | ok a g' => exact ⟨h.1.mono hsub, h.2⟩
  | error cause g' => exact h

/-- What comes of the rest of a run comes of the run. -/
theorem Reaches.before {r : EStateM.Result GenerationError Generation α}
    (h : Reaches settings actions used taken g' r)
    (hkept : ∀ name, g.counters.contains name = true → g'.counters.contains name = true) :
    Reaches settings actions used taken g r := by
  cases r with
  | ok a u => exact ⟨h.1, fun name hname => h.2 name (hkept name hname)⟩
  | error cause u => exact h

namespace Advances

variable {needs needs' makes : List RuleSet}

theorem mono {x : Run α} (hx : Advances settings actions needs own takes x)
    (hneeds : needs ⊆ needs') (hown : own ⊆ own') :
    Advances settings actions needs' own' takes x := by
  intro used taken g hg hmade hdisjoint
  have hreaches := hx used taken g hg (fun name hname => hmade name (hneeds hname))
    (hdisjoint.mono_left hown)
  exact hreaches.mono (Set.union_subset_union_right used hown)

theorem pure (a : α) : Advances settings actions needs own [] (Pure.pure a : Run α) := by
  intro used taken g hg _ _
  rw [List.append_nil]
  exact ⟨hg.mono Set.subset_union_left, fun _ h => h⟩

/-- What comes second may need the sequences that the first has made. -/
theorem bind_making {x : Run α} {f : α → Run β} (hx : Advances settings actions needs own takes x)
    (hmakes : ∀ g a g', x g = .ok a g' → ∀ name ∈ makes, g'.counters.contains name = true)
    (hf : ∀ a, Advances settings actions (needs ++ makes) own' takes' (f a))
    (happart : Disjoint own own') :
    Advances settings actions needs (own ∪ own') (takes ++ takes') (x >>= f) := by
  intro used taken g hg hneeds hdisjoint
  obtain ⟨hown, hown'⟩ := Set.disjoint_union_left.mp hdisjoint
  have hfirst := hx used taken g hg hneeds hown
  have hrest : Disjoint own' (used ∪ own) := Set.disjoint_union_right.mpr ⟨hown', happart.symm⟩
  rw [← List.append_assoc, ← Set.union_assoc]
  cases hxu : x g with
  | error cause u =>
    rw [hxu] at hfirst
    rw [bind_of_error hxu]
    exact Excused.more hfirst takes'
  | ok a u =>
    rw [hxu] at hfirst
    rw [bind_of_ok hxu]
    obtain ⟨hu, hkept⟩ := hfirst
    refine (hf a (used ∪ own) (taken ++ takes) u hu ?_ hrest).before hkept
    intro name hname
    rcases List.mem_append.mp hname with hname | hname
    · exact hkept name (hneeds name hname)
    · exact hmakes g a u hxu name hname

theorem bind {x : Run α} {f : α → Run β} (hx : Advances settings actions needs own takes x)
    (hf : ∀ a, Advances settings actions needs own' takes' (f a)) (happart : Disjoint own own') :
    Advances settings actions needs (own ∪ own') (takes ++ takes') (x >>= f) := by
  have hnone : ∀ g a g', x g = .ok a g' → ∀ name ∈ [], g'.counters.contains name = true := by
    simp
  exact hx.bind_making hnone (by simpa using hf) happart

theorem forEach {items : List α} {step : α → Run Unit} {own : α → Set Stem}
    {takes : α → List RuleSet}
    (hstep : ∀ item ∈ items, Advances settings actions needs (own item) (takes item) (step item))
    (happart : items.Pairwise fun a b => Disjoint (own a) (own b)) :
    Advances settings actions needs {stem | ∃ item ∈ items, stem ∈ own item}
      (items.flatMap takes) (forEach items step) := by
  induction items with
  | nil => exact pure ()
  | cons item rest ih =>
    obtain ⟨hfirst, hrest⟩ := List.pairwise_cons.mp happart
    have hothers := ih (fun other hother => hstep other (List.mem_cons_of_mem _ hother)) hrest
    refine ((hstep item List.mem_cons_self).bind (fun _ => hothers) ?_).mono
      (List.Subset.refl _) ?_
    · rw [Set.disjoint_left]
      rintro stem hstem ⟨other, hother, hstem'⟩
      exact Set.disjoint_left.mp (hfirst other hother) hstem hstem'
    · rintro stem (hstem | ⟨other, hother, hstem⟩)
      · exact ⟨item, List.mem_cons_self, hstem⟩
      · exact ⟨other, List.mem_cons_of_mem _ hother, hstem⟩

/-- Steps without stems of their own may come one after the other. -/
theorem forEach_none {items : List α} {step : α → Run Unit} {takes : α → List RuleSet}
    (hstep : ∀ item ∈ items, Advances settings actions needs ∅ (takes item) (step item)) :
    Advances settings actions needs ∅ (items.flatMap takes) (Generation.forEach items step) := by
  refine (forEach hstep ?_).mono (List.Subset.refl _) ?_
  · exact List.pairwise_of_forall fun _ _ => Set.disjoint_empty _
  · rintro stem ⟨-, -, hstem⟩
    exact hstem

/-- A step that sets values below its own stems takes no number. -/
theorem sets {x : Run α} (hx : Sets actions (Set.preimage Spot.stem own) x)
    (hown : ∀ stem ∈ own, ¬ stem.IsRule) : Advances settings actions needs own [] x := by
  intro used taken g hg _ hdisjoint
  rw [List.append_nil]
  have hfree : Disjoint (Set.preimage Spot.stem own) (occupied settings used taken) := by
    rw [Set.disjoint_left]
    rintro s hs (⟨hused, -⟩ | ⟨name, i, -, hrule⟩)
    · exact Set.disjoint_left.mp hdisjoint hs hused
    · exact hown s.stem hs (hrule ▸ trivial)
  obtain ⟨a, g', hrun, hg', hcounters⟩ := hx _ g hg.filled hfree
  have hsub : occupied settings used taken ∪ Set.preimage Spot.stem own ⊆
      occupied settings (used ∪ own) taken := by
    rintro s (hs | hs)
    · exact occupied_mono Set.subset_union_left hs
    · exact .inl ⟨.inr hs, hown s.stem hs⟩
  rw [hrun]
  refine ⟨⟨hg'.mono hsub, ?_⟩, ?_⟩
  · rw [hcounters]
    exact hg.counted
  · rw [hcounters]
    exact fun _ h => h

theorem sets_below {stem : Stem} {x : Run α} (hx : Sets actions {s | s.stem = stem} x)
    (hstem : ¬ stem.IsRule) : Advances settings actions needs {stem} [] x :=
  sets hx fun _ h => h ▸ hstem

/-- A step with the next number of a rule set sets values below a rule that is new. -/
theorem numbered {name : RuleSet} {body : UInt32 → Run Unit} (hname : name ∈ needs)
    (hbody : ∀ number : UInt32, Sets actions
      {s | s.stem = .rule name (Text.ofNat number.toNat)} (body number)) :
    Advances settings actions needs ∅ [name] (count (RuleCounters.next name) >>= body) := by
  intro used taken g hg hmade _
  obtain ⟨hstep, hnext⟩ := hg.counted.next (hmade name hname)
  by_cases hlt : settings.ruleNumber name (taken.count name) < UInt32.size
  case neg =>
    have hrun : count (RuleCounters.next name) g = .error (.counter (.exhausted name)) g := by
      simp only [count, hnext, if_neg hlt]
    rw [bind_of_error hrun]
    have hlast : taken.count name < (taken ++ [name]).count name := by
      simp [List.count_append]
    exact .exhausted hlast (Nat.le_of_not_lt hlt)
  case pos =>
    have hrun : count (RuleCounters.next name) g =
        .ok (UInt32.ofNat (settings.ruleNumber name (taken.count name))) { g with
          counters := g.counters.put name (settings.sequence name (taken.count name + 1)) } := by
      simp only [count, hnext, if_pos hlt]
    have hset := hbody (UInt32.ofNat (settings.ruleNumber name (taken.count name)))
    rw [UInt32.toNat_ofNat_of_lt' hlt] at hset
    obtain ⟨a, g', hrest, hfilled, hcounters⟩ := hset _ { g with
      counters := g.counters.put name (settings.sequence name (taken.count name + 1)) }
      hg.filled (disjoint_occupied hstep)
    rw [bind_of_ok hrun, hrest, Set.union_empty]
    refine ⟨hg.take hstep hfilled hcounters, ?_⟩
    intro other hother
    rw [hcounters, RuleCounters.contains_put, hother, Bool.or_true]

theorem discard {x : Run α} (hx : Advances settings actions needs own takes x) :
    Advances settings actions needs own takes (discard x) := by
  have hnothing : Advances settings actions needs ∅ [] (Pure.pure () : Run Unit) := pure ()
  have := hx.bind (fun _ => hnothing) (Set.disjoint_empty own)
  rwa [Set.union_empty, List.append_nil] at this

/-- A rule set gets its sequence, or has it. -/
theorem make (name : RuleSet) : Advances settings actions needs ∅ []
    (count (RuleCounters.make name (settings.numbers name).ruleStart
      (settings.numbers name).ruleStep)) := by
  intro used taken g hg _ _
  rw [List.append_nil, Set.union_empty, count, RuleCounters.make_apply]
  cases hcontains : g.counters.contains name with
  | true => exact ⟨hg, fun _ h => h⟩
  | false =>
    by_cases hstep : (settings.numbers name).ruleStep = 0
    · simp only [hstep, if_true]
      exact .zeroStep hstep
    · simp only [hstep, if_false]
      have hnone : g.counters.get? name = none := by
        simpa [RuleCounters.contains] using hcontains
      refine ⟨⟨hg.filled, hg.counted.make hstep hnone⟩, ?_⟩
      intro other hother
      rw [RuleCounters.contains_put, hother, Bool.or_true]

end Advances

/-- After that it has one, and so have those that had one before. -/
theorem contains_of_make {name : RuleSet} {start step : UInt32} {g g' : Generation}
    (h : discard (count (RuleCounters.make name start step)) g = .ok () g') {other : RuleSet}
    (hother : name = other ∨ g.counters.contains other = true) :
    g'.counters.contains other = true := by
  obtain ⟨made, u, hcount, hpure⟩ := bind_eq_ok.mp h
  cases hpure
  obtain ⟨hmake, -⟩ := count_ok hcount
  rcases RuleCounters.make_ok hmake with ⟨counter, hget, hsame⟩ | ⟨-, -, hput⟩
  · rw [hsame]
    rcases hother with rfl | hother
    · rw [RuleCounters.contains, hget, Option.isSome_some]
    · exact hother
  · rw [hput, RuleCounters.contains_put]
    rcases hother with rfl | hother
    · simp
    · rw [hother, Bool.or_true]

end Generation

end RouterConfig
