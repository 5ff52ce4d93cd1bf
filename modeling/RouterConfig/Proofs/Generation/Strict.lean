/-
RouterConfig.Proofs.Generation.Strict — a strict run is a lenient run that
stops at the first second value.

`strict_filters_lenient`: what succeeds under the strict policy gives the
same tree and the same sequences under the lenient one; an error other than
that of a second value is the same error there; and a second value is
refused exactly when the lenient run makes a call that finds a value already
there, the first of which names the path.

## How the proof goes

`Makes` says which values a run sets, call by call and with the tree that
each call finds; it follows the structure of a run, with one case for each
thing a run can do. Each run with an inventory makes such calls
(`Traced.putInventory`, over one lemma for each part of an inventory).

Beside the lenient run the strict one does the same until a call finds a
value already there, and at that call it stops (`Makes.lockstep`, by
induction on the calls). The policy is looked at by `setValue` alone, which
under the strict policy refuses what it would replace under the lenient one
(`Lockstep.setValue`); all else does the same under both.

## Side conditions

There are none: the statement is of every grammar, all settings and every
inventory. The two settings that are compared differ in the policy only.
That `firstOverwrite` speaks of the lenient run matters, for the strict one
has no calls behind the first second value.
-/
import RouterConfig.Generation.Networks
import RouterConfig.Proofs.Definition.Policy
import RouterConfig.Proofs.Generation.Runs

namespace RouterConfig

namespace Settings

/-- The settings with a second value for a path as an error. -/
def strict (s : Settings) : Settings := { s with strictPaths := true }

/-- The settings with the last value for a path counting. -/
def lenient (s : Settings) : Settings := { s with strictPaths := false }

end Settings

namespace Generation

open Definitions

/-! ## 1. The calls of a run -/

/-- A call that sets the value at a path, with the tree that it finds. -/
structure Call where
  path : ConfigPath
  tree : Definitions

/-- The calls that a run from a state makes to set a value, in order. A run that stops with an error
has made the calls up to there, the one that failed included. -/
inductive Makes : {α : Type} → Run α → Generation → List Call → Prop
  | pure {α : Type} (a : α) (g : Generation) : Makes (Pure.pure a) g []
  | ensure (path : ConfigPath) (g : Generation) : Makes (edit (ensure path)) g []
  | setValue (path : ConfigPath) (value : Value) (g : Generation) :
      Makes (edit (setValue path value)) g [⟨path, g.tree⟩]
  | count {α : Type} (change : RuleCounters.Counting α) (g : Generation) :
      Makes (count change) g []
  /-- A definition may be looked up on the way. -/
  | find {α : Type} (f : Option Definition → Run α) (key : String) {g : Generation}
      {calls : List Call} : Makes (f (g.tree.get? key)) g calls →
      Makes (do f ((← get).tree.get? key)) g calls
  /-- So may the grammar. -/
  | schema {α : Type} (f : SchemaNode → Run α) {g : Generation} {calls : List Call} :
      Makes (f g.tree.schema) g calls → Makes (do f (← get).tree.schema) g calls
  | bind {α β : Type} {x : Run α} {f : α → Run β} {a : α} {g g' : Generation}
      {calls calls' : List Call} : Makes x g calls → x g = .ok a g' → Makes (f a) g' calls' →
      Makes (x >>= f) g (calls ++ calls')
  | stop {α β : Type} {x : Run α} {f : α → Run β} {cause : GenerationError} {g g' : Generation}
      {calls : List Call} : Makes x g calls → x g = .error cause g' → Makes (x >>= f) g calls

/-- The key of the first call that finds a value already there. -/
def firstOverwrite (calls : List Call) : Option String :=
  (calls.find? fun call => call.tree.holdsValue call.path).map (·.path.key)

theorem firstOverwrite_singleton (call : Call) : firstOverwrite [call] =
    if call.tree.holdsValue call.path then some call.path.key else none := by
  cases h : call.tree.holdsValue call.path <;> simp [firstOverwrite, h]

/-- A first call that finds a value is in the first calls, or else in those behind them. -/
theorem firstOverwrite_append (calls calls' : List Call) :
    firstOverwrite (calls ++ calls') = (firstOverwrite calls).or (firstOverwrite calls') := by
  simp only [firstOverwrite, List.find?_append, Option.map_or]

/-! ## 2. A strict run beside a lenient one -/

/-- The run under another policy. -/
def under (policy : DuplicatePolicy) (g : Generation) : Generation :=
  { g with tree := g.tree.under policy }

/-- A run from a state under the lenient policy with the calls that it makes, and the same run under
the strict policy. -/
structure Lockstep (x : Run α) (g : Generation) (calls : List Call) : Prop where
  same : firstOverwrite calls = none →
    x (g.under .reject) = mapState (under .reject) (x g)
  refused : ∀ k, firstOverwrite calls = some k →
    ∃ g', x (g.under .reject) = .error (.definition (.duplicatePath k)) g'
  lenient : ∀ k g', x g ≠ .error (.definition (.duplicatePath k)) g'
  next : ∀ a g', x g = .ok a g' → Indexed g'.tree ∧ g'.tree.policy = .warn

/-- An edit that does the same under both policies is such a step of a run. -/
theorem edit_under {policy : DuplicatePolicy} {e : Edit α} {g : Generation}
    (h : e (g.tree.under policy) = mapState (Definitions.under policy) (e g.tree)) :
    edit e (g.under policy) = mapState (under policy) (edit e g) := by
  simp only [edit, under, h]
  cases e g.tree <;> rfl

/-- A step that edits fails for the reason that the edit fails. -/
theorem edit_error {e : Edit α} {g g' : Generation} {cause : GenerationError}
    (h : edit e g = .error cause g') : ∃ c t, cause = .definition c ∧ e g.tree = .error c t := by
  unfold edit at h
  cases he : e g.tree with
  | ok a t => simp [he] at h
  | error c t =>
    simp only [he] at h
    cases h
    exact ⟨c, t, rfl, rfl⟩

theorem count_error {change : RuleCounters.Counting α} {g g' : Generation}
    {cause : GenerationError} (h : count change g = .error cause g') :
    ∃ c counters, cause = .counter c ∧ change g.counters = .error c counters := by
  unfold count at h
  cases hc : change g.counters with
  | ok a counters => simp [hc] at h
  | error c counters =>
    simp only [hc] at h
    cases h
    exact ⟨c, counters, rfl, rfl⟩

section Steps

variable {g : Generation} (hg : Indexed g.tree) (hpolicy : g.tree.policy = .warn)
include hg hpolicy

/-- A step that keeps a tree indexed leaves it ready for the next one. -/
theorem next_of_keeps {P : ConfigPath → Prop} {e : Edit α} (he : Keeps P e) {a : α}
    {g' : Generation} (h : edit e g = .ok a g') : Indexed g'.tree ∧ g'.tree.policy = .warn := by
  obtain ⟨htree, -⟩ := edit_ok h
  have hchanges := he.changes hg htree
  exact ⟨hg.changes hchanges, hchanges.policy_eq.trans hpolicy⟩

/-- Making a definition sets no value, so the policy does not matter to it. -/
theorem Lockstep.ensure (path : ConfigPath) : Lockstep (edit (Definitions.ensure path)) g [] where
  same _ := edit_under (ensure_under path g.tree)
  refused k hk := by cases hk
  lenient k g' h := by
    obtain ⟨c, t, hcause, herror⟩ := edit_error h
    obtain rfl : .duplicatePath k = c := by simpa using hcause
    exact ensure_ne_duplicatePath path g.tree t k herror
  next a g' h := next_of_keeps hg hpolicy (keeps_ensure path) h

/-- Setting a value is one call. Under the strict policy it is refused where the lenient one
replaces. -/
theorem Lockstep.setValue (path : ConfigPath) (value : Value) :
    Lockstep (edit (Definitions.setValue path value)) g [⟨path, g.tree⟩] where
  same hnone := by
    have hvacant : g.tree.holdsValue path = false := by
      simpa [firstOverwrite_singleton] using hnone
    exact edit_under (setValue_vacant hvacant value)
  refused k hk := by
    obtain ⟨hvalue, rfl⟩ : g.tree.holdsValue path = true ∧ path.key = k := by
      simpa [firstOverwrite_singleton] using hk
    have hreject := setValue_reject hg hvalue value
    refine ⟨g.under .reject, ?_⟩
    simp only [edit, under, hreject]
  lenient k g' h := by
    obtain ⟨c, t, hcause, herror⟩ := edit_error h
    obtain rfl : .duplicatePath k = c := by simpa using hcause
    exact setValue_ne_duplicatePath hpolicy path value t k herror
  next a g' h := next_of_keeps hg hpolicy (keeps_setValue path value) h

/-- Counting does not look at the tree. -/
theorem Lockstep.count (change : RuleCounters.Counting α) :
    Lockstep (Generation.count change) g [] where
  same _ := by
    have hcounters : (g.under .reject).counters = g.counters := rfl
    simp only [Generation.count, hcounters]
    cases change g.counters <;> rfl
  refused k hk := by cases hk
  lenient k g' h := by
    obtain ⟨c, counters, hcause, -⟩ := count_error h
    cases hcause
  next a g' h := by
    obtain ⟨-, htree⟩ := count_ok h
    rw [htree]
    exact ⟨hg, hpolicy⟩

end Steps

theorem Lockstep.pure {g : Generation} (hg : Indexed g.tree) (hpolicy : g.tree.policy = .warn)
    (a : α) : Lockstep (Pure.pure a : Run α) g [] where
  same _ := rfl
  refused k hk := by cases hk
  lenient k g' h := by cases h
  next b g' h := by
    cases h
    exact ⟨hg, hpolicy⟩

/-- The calls of two steps are those of the first and then those of the second. -/
theorem Lockstep.bind {x : Run α} {f : α → Run β} {a : α} {g g' : Generation}
    {calls calls' : List Call} (hx : Lockstep x g calls) (hok : x g = .ok a g')
    (hf : Lockstep (f a) g' calls') : Lockstep (x >>= f) g (calls ++ calls') where
  same hnone := by
    rw [firstOverwrite_append, Option.or_eq_none_iff] at hnone
    refine bind_mapState (hx.same hnone.1) ?_
    intro b u hb
    obtain ⟨rfl, rfl⟩ := EStateM.Result.ok.inj (hb.symm.trans hok)
    exact hf.same hnone.2
  refused k hk := by
    rw [firstOverwrite_append] at hk
    cases hfirst : firstOverwrite calls with
    | some k' =>
      rw [hfirst, Option.some_or] at hk
      obtain ⟨u, hu⟩ := hx.refused k (hfirst.trans hk)
      exact ⟨u, bind_of_error hu⟩
    | none =>
      rw [hfirst, Option.none_or] at hk
      have hstrict := hx.same hfirst
      rw [hok] at hstrict
      obtain ⟨u, hu⟩ := hf.refused k hk
      exact ⟨u, (bind_of_ok hstrict).trans hu⟩
  lenient k u h := by
    rcases bind_eq_error.mp h with herror | ⟨b, v, hb, herror⟩
    · exact hx.lenient k u herror
    · obtain ⟨rfl, rfl⟩ := EStateM.Result.ok.inj (hb.symm.trans hok)
      exact hf.lenient k u herror
  next b u h := by
    obtain ⟨c, v, hc, hb⟩ := bind_eq_ok.mp h
    obtain ⟨rfl, rfl⟩ := EStateM.Result.ok.inj (hc.symm.trans hok)
    exact hf.next b u hb

/-- Behind a step that fails there are no further calls. -/
theorem Lockstep.stop {x : Run α} (f : α → Run β) {cause : GenerationError} {g g' : Generation}
    {calls : List Call} (hx : Lockstep x g calls) (herror : x g = .error cause g') :
    Lockstep (x >>= f) g calls where
  same hnone := by
    refine bind_mapState (hx.same hnone) ?_
    intro a u ha
    cases ha.symm.trans herror
  refused k hk := by
    obtain ⟨u, hu⟩ := hx.refused k hk
    exact ⟨u, bind_of_error hu⟩
  lenient k u h := by
    rcases bind_eq_error.mp h with hx' | ⟨a, v, ha, -⟩
    · exact hx.lenient k u hx'
    · cases ha.symm.trans herror
  next b u h := by
    obtain ⟨a, v, ha, -⟩ := bind_eq_ok.mp h
    cases ha.symm.trans herror

/-- **The strict run does what the lenient run does until a call finds a value already there, and
stops at that call.** -/
theorem Makes.lockstep {x : Run α} {g : Generation} {calls : List Call} (h : Makes x g calls)
    (hg : Indexed g.tree) (hpolicy : g.tree.policy = .warn) : Lockstep x g calls := by
  induction h with
  | pure a g => exact .pure hg hpolicy a
  | ensure path g => exact .ensure hg hpolicy path
  | setValue path value g => exact .setValue hg hpolicy path value
  | count change g => exact .count hg hpolicy change
  | find f key _ ih =>
    have hrest := ih hg hpolicy
    exact ⟨hrest.same, hrest.refused, hrest.lenient, hrest.next⟩
  | schema f _ ih =>
    have hrest := ih hg hpolicy
    exact ⟨hrest.same, hrest.refused, hrest.lenient, hrest.next⟩
  | bind _ hok _ ihx ihf =>
    have hx := ihx hg hpolicy
    obtain ⟨hg', hpolicy'⟩ := hx.next _ _ hok
    exact hx.bind hok (ihf hg' hpolicy')
  | stop _ herror ih => exact (ih hg hpolicy).stop _ herror

/-! ## 3. Every run makes calls -/

/-- From whichever state, the run makes some calls. -/
def Traced (x : Run α) : Prop := ∀ g, ∃ calls, Makes x g calls

/-- Edits one after the other are steps of a run one after the other. -/
theorem edit_bind (e : Edit α) (f : α → Edit β) :
    edit (e >>= f) = edit e >>= fun a => edit (f a) := by
  funext g
  cases h : e g.tree with
  | ok a t =>
    have hrun : edit e g = .ok a { g with tree := t } := by simp only [edit, h]
    rw [bind_of_ok hrun]
    simp only [edit, bind_of_ok h]
  | error cause t =>
    have hrun : edit e g = .error (.definition cause) { g with tree := t } := by
      simp only [edit, h]
    rw [bind_of_error hrun]
    simp only [edit, bind_of_error h]

theorem edit_discard (e : Edit α) : edit (Functor.discard e) = Functor.discard (edit e) :=
  edit_bind e fun _ => Pure.pure ()

namespace Traced

theorem pure (a : α) : Traced (Pure.pure a : Run α) := fun g => ⟨[], .pure a g⟩

/-- A run of two steps makes the calls of both, or those of the first where that one fails. -/
theorem bind {x : Run α} {f : α → Run β} (hx : Traced x) (hf : ∀ a, Traced (f a)) :
    Traced (x >>= f) := by
  intro g
  obtain ⟨calls, hcalls⟩ := hx g
  cases hrun : x g with
  | ok a g' =>
    obtain ⟨calls', hcalls'⟩ := hf a g'
    exact ⟨calls ++ calls', .bind hcalls hrun hcalls'⟩
  | error cause g' => exact ⟨calls, .stop hcalls hrun⟩

theorem discard {x : Run α} (hx : Traced x) : Traced (discard x) :=
  hx.bind fun _ => .pure ()

theorem ensure (path : ConfigPath) : Traced (edit (Definitions.ensure path)) :=
  fun g => ⟨[], .ensure path g⟩

theorem setValue (path : ConfigPath) (value : Value) :
    Traced (edit (Definitions.setValue path value)) :=
  fun g => ⟨_, .setValue path value g⟩

theorem count (change : RuleCounters.Counting α) : Traced (count change) :=
  fun g => ⟨[], .count change g⟩

/-- What a run looks up in its tree may decide how it goes on. -/
theorem find (f : Option Definition → Run α) (key : String) (hf : ∀ d, Traced (f d)) :
    Traced (do f ((← get).tree.get? key)) := by
  intro g
  obtain ⟨calls, hcalls⟩ := hf (g.tree.get? key) g
  exact ⟨calls, .find f key hcalls⟩

theorem schema (f : SchemaNode → Run α) (hf : ∀ node, Traced (f node)) :
    Traced (do f (← get).tree.schema) := by
  intro g
  obtain ⟨calls, hcalls⟩ := hf g.tree.schema g
  exact ⟨calls, .schema f hcalls⟩

theorem put (path : ConfigPath) (text : String) : Traced (put path text) := setValue path _

theorem putAll (path : ConfigPath) (texts : List String) : Traced (putAll path texts) :=
  setValue path _

theorem putIfSome (path : ConfigPath) (text : Option String) : Traced (putIfSome path text) := by
  cases text with
  | none => exact pure ()
  | some text => exact put path text

theorem putAny (path : ConfigPath) (texts : List String) : Traced (putAny path texts) := by
  unfold Generation.putAny
  split
  · exact pure ()
  · exact putAll path texts

/-- A text that is there already is not set again, so there is a call or none. -/
theorem putShared (path : ConfigPath) (text : String) : Traced (putShared path text) := by
  refine find (fun existing => if existing.map (·.value) = some (.single text) then Pure.pure ()
    else Generation.put path text) path.key ?_
  intro existing
  split
  · exact pure ()
  · exact put path text

theorem forEach (items : List α) {step : α → Run Unit} (h : ∀ item, Traced (step item)) :
    Traced (forEach items step) := by
  induction items with
  | nil => exact pure ()
  | cons item rest ih => exact (h item).bind fun _ => ih

/-! ### Templates -/

mutual

/-- An entry sets its value, or makes its definition and goes on with the entries below. -/
theorem insertEntry (schema : SchemaNode) (path : ConfigPath) :
    (value : TemplateValue) → Traced (edit (insertEntry schema path value))
  | .scalar _ => setValue path _
  | .list _ => setValue path _
  | .node entries => by
    rw [Definitions.insertEntry, edit_bind, edit_discard]
    exact (discard (ensure path)).bind fun _ => insertEntries schema path entries
  | .presence => by
    rw [Definitions.insertEntry, edit_discard]
    exact discard (ensure path)

theorem insertEntries (schema : SchemaNode) (above : ConfigPath) :
    (entries : TemplateEntries) → Traced (edit (insertEntries schema above entries))
  | [] => pure ()
  | (name, value) :: rest => by
    rw [Definitions.insertEntries, edit_bind]
    exact (insertEntry schema (entryPath schema above name) value).bind fun _ =>
      insertEntries schema above rest

end

/-- A template makes the calls of its entries, as the grammar of the run names them. -/
theorem putTemplate (path : ConfigPath) (template : Template) :
    Traced (putTemplate path template) :=
  schema (fun node => edit (Definitions.insertEntries node path template.entries))
    fun node => insertEntries node path template.entries

/-! ### Inventories -/

theorem putEndpoint (rule : ConfigPath) (word : String) (e : Option Endpoint) :
    Traced (putEndpoint rule word e) := by
  cases e with
  | none => exact pure ()
  | some e =>
    exact (putIfSome _ _).bind fun _ => (putIfSome _ _).bind fun _ => putIfSome _ _

theorem putConnection (ruleSet : String) (c : Connection) :
    Traced (putConnection ruleSet c) := by
  refine (count _).bind ?_
  intro number
  exact (put _ _).bind fun _ => (put _ _).bind fun _ => (put _ _).bind fun _ =>
    (putIfSome _ _).bind fun _ => (putEndpoint _ _ _).bind fun _ => putEndpoint _ _ _

theorem putForward (settings : Settings) (h : Host) (forward : UInt16 × UInt16) :
    Traced (putForward settings h forward) := by
  refine (count _).bind ?_
  intro number
  exact (put _ _).bind fun _ => (put _ _).bind fun _ => (put _ _).bind fun _ =>
    (put _ _).bind fun _ => (put _ _).bind fun _ => put _ _

/-- A host makes the calls of its mapping, of its connections and of its forwarded ports. -/
theorem putHost (settings : Settings) (network : Network) (subnet : ConfigPath) (h : Host) :
    Traced (putHost settings network subnet h) :=
  (put _ _).bind fun _ => (putIfSome _ _).bind fun _ => (putTemplate _ _).bind fun _ =>
    (forEach h.connections fun c => putConnection (network.firewall.name c.direction) c).bind
      fun _ => forEach h.forwards.sorted (putForward settings h)

theorem putRange (base : ConfigPath) (r : Option AddressRange) : Traced (putRange base r) := by
  cases r with
  | none => exact pure ()
  | some r => exact (put _ _).bind fun _ => put _ _

theorem putSubnet (settings : Settings) (network : Network) (s : Subnet) :
    Traced (putSubnet settings network s) :=
  (discard (ensure _)).bind fun _ => (put _ _).bind fun _ => (putAny _ _).bind fun _ =>
    (putIfSome _ _).bind fun _ => (putIfSome _ _).bind fun _ => (putRange _ s.range).bind fun _ =>
    (putTemplate _ _).bind fun _ =>
    forEach s.hosts (putHost settings network (subnetPath network s))

theorem putDefaultAction (names : RuleSetNames) : Traced (putDefaultAction names) := by
  unfold Generation.putDefaultAction
  split
  · exact pure ()
  · exact forEach names.all fun _ => putShared _ _

theorem putNetwork (settings : Settings) (network : Network) :
    Traced (putNetwork settings network) :=
  (forEach network.firewall.all fun _ => discard (count _)).bind fun _ =>
    (discard (ensure _)).bind fun _ => (putIfSome _ _).bind fun _ => (putAny _ _).bind fun _ =>
    (forEach network.firewall.all fun _ => put _ _).bind fun _ =>
    (putTemplate _ _).bind fun _ => (putDefaultAction _).bind fun _ =>
    forEach network.subnets (putSubnet settings network)

theorem putPortGroup (g : PortGroup) : Traced (putPortGroup g) :=
  (putAll _ _).bind fun _ => putIfSome _ _

/-- Every run with an inventory makes some calls. -/
theorem putInventory (settings : Settings) (inventory : Inventory) :
    Traced (putInventory settings inventory) :=
  (discard (count _)).bind fun _ => (putTemplate _ _).bind fun _ =>
    (forEach inventory.portGroups putPortGroup).bind fun _ =>
    forEach inventory.networks (putNetwork settings)

end Traced

/-! ## 4. Strict and lenient generation -/

section

variable {schema : SchemaNode} {settings : Settings} {inventory : Inventory} {calls : List Call}
  (h : Lockstep (putInventory settings.lenient inventory) (start schema settings.lenient) calls)
include h

/-- Only the tree at the start depends on whether a second value is an error. -/
theorem generate_strict_of_none (hnone : firstOverwrite calls = none) :
    generate schema settings.strict inventory =
      (generate schema settings.lenient inventory).map (under .reject) := by
  have hrun : putInventory settings.strict inventory (start schema settings.strict) =
      mapState (under .reject)
        (putInventory settings.lenient inventory (start schema settings.lenient)) :=
    h.same hnone
  unfold generate
  rw [hrun]
  cases putInventory settings.lenient inventory (start schema settings.lenient) <;> rfl

/-- A strict run is refused at the first call that finds a value. -/
theorem generate_strict_of_some {k : String} (hsome : firstOverwrite calls = some k) :
    generate schema settings.strict inventory = .error (.definition (.duplicatePath k)) := by
  obtain ⟨g', hrun⟩ := h.refused k hsome
  have hrun' : putInventory settings.strict inventory (start schema settings.strict) =
      .error (.definition (.duplicatePath k)) g' := hrun
  unfold generate
  rw [hrun']

/-- Under the lenient policy no second value is refused. -/
theorem generate_lenient_ne (k : String) : generate schema settings.lenient inventory ≠
    .error (.definition (.duplicatePath k)) := by
  unfold generate
  split
  · exact fun heq => by cases heq
  · rename_i cause g' hrun
    intro heq
    obtain rfl := Except.error.inj heq
    exact h.lenient k g' hrun

/-- A strict run that succeeds has come past no second value. -/
theorem generate_strict_ok {run : Generation}
    (hrun : generate schema settings.strict inventory = .ok run) :
    generate schema settings.lenient inventory = .ok (run.under .warn) := by
  cases hover : firstOverwrite calls with
  | some k =>
    rw [generate_strict_of_some h hover] at hrun
    cases hrun
  | none =>
    rw [generate_strict_of_none h hover] at hrun
    cases hlenient : generate schema settings.lenient inventory with
    | error cause =>
      rw [hlenient] at hrun
      cases hrun
    | ok run' =>
      rw [hlenient] at hrun
      obtain rfl := Except.ok.inj hrun
      have hpolicy := (h.next () run' (generate_ok hlenient)).2
      simp only [under, under_under, under_self hpolicy]

/-- A strict run that fails refuses a second value, or fails as the lenient run does. -/
theorem generate_strict_error {cause : GenerationError}
    (hcause : generate schema settings.strict inventory = .error cause) :
    (∃ k, firstOverwrite calls = some k ∧ cause = .definition (.duplicatePath k)) ∨
      firstOverwrite calls = none ∧
        generate schema settings.lenient inventory = .error cause := by
  cases hover : firstOverwrite calls with
  | some k =>
    rw [generate_strict_of_some h hover] at hcause
    exact .inl ⟨k, rfl, (Except.error.inj hcause).symm⟩
  | none =>
    rw [generate_strict_of_none h hover] at hcause
    cases hlenient : generate schema settings.lenient inventory with
    | error cause' =>
      rw [hlenient] at hcause
      exact .inr ⟨rfl, hcause⟩
    | ok run =>
      rw [hlenient] at hcause
      cases hcause

end

/-- **Strict generation is lenient generation that stops at the first second value.** What succeeds
under the strict policy gives the same tree and the same sequences under the lenient one, another
error is the same error there, and a second value is refused exactly when the lenient run makes a
call that finds a value already there, the first of which names the path. -/
theorem strict_filters_lenient (schema : SchemaNode) (settings : Settings)
    (inventory : Inventory) :
    (∀ run, generate schema settings.strict inventory = .ok run →
      generate schema settings.lenient inventory = .ok (run.under .warn)) ∧
    (∀ cause, generate schema settings.strict inventory = .error cause →
      (∀ k, cause ≠ .definition (.duplicatePath k)) →
      generate schema settings.lenient inventory = .error cause) ∧
    (∃ calls, Makes (putInventory settings.lenient inventory) (start schema settings.lenient)
      calls) ∧
    ∀ calls, Makes (putInventory settings.lenient inventory) (start schema settings.lenient)
      calls → ∀ k, generate schema settings.strict inventory =
        .error (.definition (.duplicatePath k)) ↔ firstOverwrite calls = some k := by
  have hlockstep : ∀ calls, Makes (putInventory settings.lenient inventory)
      (start schema settings.lenient) calls →
      Lockstep (putInventory settings.lenient inventory) (start schema settings.lenient) calls :=
    fun calls hcalls => hcalls.lockstep (indexed_new _ _) rfl
  obtain ⟨calls, hcalls⟩ := Traced.putInventory settings.lenient inventory
    (start schema settings.lenient)
  have h := hlockstep calls hcalls
  refine ⟨?_, ?_, ⟨calls, hcalls⟩, ?_⟩
  · intro run hrun
    exact generate_strict_ok h hrun
  · intro cause hcause hother
    rcases generate_strict_error h hcause with ⟨k, -, hk⟩ | ⟨-, hlenient⟩
    · exact absurd hk (hother k)
    · exact hlenient
  · intro calls' hcalls' k
    have h' := hlockstep calls' hcalls'
    constructor
    · intro hduplicate
      rcases generate_strict_error h' hduplicate with ⟨k', hover, hk⟩ | ⟨-, hlenient⟩
      · obtain rfl : k = k' := by simpa using hk
        exact hover
      · exact absurd hlenient (generate_lenient_ne h' k)
    · exact fun hover => generate_strict_of_some h' hover

end Generation

end RouterConfig
