/-
RouterConfig.Proofs.Generation.Firewall — the rules that a run makes for
the connections of an inventory.

`firewall_rules`: after a run that succeeds, what stands under the rules of
a rule set are the rules of its connections in the order of the inventory,
over all hosts, subnets and networks that share the rule set, numbered from
the start of the settings on (`numberedRules`). A rule set without
connections has no rules. The sequence of a rule set has given one number to
each connection, and names that no network has got no sequence.

## How the proof goes

`Projected` says so of a run that has come some way: the connections so far,
and the rule sets with a sequence of numbers. It holds after the settings
(`projected_settings`). Then each step of the run keeps it:

* a connection becomes the last rule of its rule set
  (`Projected.putConnection`, which rests on `Generation.Rules` for one
  rule);
* a default action stands beside the rules (`Projected.putDefaultAction`);
* a rule set that two networks share keeps its sequence
  (`Projected.ensureCounter`);
* everything else touches other paths (`Projected.outside`).

Hosts, subnets and networks follow by induction on the lists of what they
hold (`Projected.forEach`).

## Side conditions

The run succeeded. No name of a rule set holds a slash, so a key is within
the rules of one rule set at most (`eq_of_keyWithin_rulesPaths`). The
settings of the inventory, which are put first and may be any template, put
nothing at or below `firewall/name` (`SettingsAvoid`). The grammar and the
policy are any.
-/
import RouterConfig.Proofs.Definition.Consistency
import RouterConfig.Proofs.Generation.Rules

namespace RouterConfig

/-! ## 1. Connections of an inventory -/

namespace Network

/-- The names of the rule sets of a network. -/
def ruleSets (network : Network) : List String :=
  [network.firewall.inbound, network.firewall.outbound, network.firewall.router]

/-- The rule set that a network names for a direction. -/
def ruleSet (network : Network) : Direction → String
  | .inbound => network.firewall.inbound
  | .outbound => network.firewall.outbound
  | .router => network.firewall.router

theorem ruleSets_eq_map (network : Network) :
    network.ruleSets = network.firewall.all.map (·.2) := rfl

/-- The rule set of a connection is the one named for its direction. -/
theorem name_eq_ruleSet (network : Network) (d : Direction) :
    network.firewall.name d = network.ruleSet d := by
  cases d <;> rfl

theorem name_mem_ruleSets (network : Network) (d : Direction) :
    network.firewall.name d ∈ network.ruleSets := by
  cases d <;> simp [name_eq_ruleSet, ruleSets, ruleSet]

end Network

/-- The connections of a host with the rule sets that its network names for them. -/
def Host.rules (network : Network) (h : Host) : List (String × Connection) :=
  h.connections.map fun c => (network.ruleSet c.direction, c)

/-- The connections of a subnet with their rule sets, host by host. -/
def Subnet.rules (network : Network) (s : Subnet) : List (String × Connection) :=
  s.hosts.flatMap (Host.rules network)

/-- The connections of a network with their rule sets, subnet by subnet. -/
def Network.rules (network : Network) : List (String × Connection) :=
  network.subnets.flatMap (Subnet.rules network)

namespace Inventory

/-- The names of all rule sets. -/
def ruleSets (inventory : Inventory) : List String := inventory.networks.flatMap Network.ruleSets

/-- All connections with their rule sets, network by network. -/
def rules (inventory : Inventory) : List (String × Connection) :=
  inventory.networks.flatMap Network.rules

end Inventory

/-- The connections of one rule set, in their order. -/
def connectionsOf (name : String) (rules : List (String × Connection)) : List Connection :=
  (rules.filter fun r => r.1 = name).map (·.2)

theorem connectionsOf_concat_self (name : String) (rules : List (String × Connection))
    (c : Connection) :
    connectionsOf name (rules ++ [(name, c)]) = connectionsOf name rules ++ [c] := by
  simp [connectionsOf]

theorem connectionsOf_concat_of_ne {name other : String} (h : other ≠ name)
    (rules : List (String × Connection)) (c : Connection) :
    connectionsOf name (rules ++ [(other, c)]) = connectionsOf name rules := by
  simp [connectionsOf, h]

namespace Generation

open Definitions Definition

/-! ## 2. Keys of rule sets -/

theorem keyWithin_ruleSetsKey (name : String) : KeyWithin ruleSetsKey (rulesPath name).key :=
  (keyWithin_ruleSetPath name).trans
    (ConfigPath.keyWithin_of_prefix rfl (List.prefix_append _ _))

theorem keyWithin_rulesPath {name k : String} (h : KeyWithin (rulesPath name).key k) :
    ∃ rest, k = ruleSetsKey ++ "/" ++ (name ++ "/" ++ ("rule" ++ rest)) := by
  rw [key_rulesPath] at h
  rcases h with rfl | ⟨tail, rfl⟩
  · exact ⟨"", by simp [String.append_assoc]⟩
  · exact ⟨"/" ++ tail, by simp [String.append_assoc, ← String.toList_inj]⟩

/-- What is within the rules of a rule set is within no other rule set. -/
theorem name_eq_of_keyWithin_rulesPath {name other rest : String} (hname : '/' ∉ name.toList)
    (hother : '/' ∉ other.toList)
    (h : KeyWithin (rulesPath name).key (ruleSetsKey ++ "/" ++ (other ++ "/" ++ rest))) :
    name = other ∧ ∃ tail, rest = "rule" ++ tail := by
  obtain ⟨tail, htail⟩ := keyWithin_rulesPath h
  have hcancel : other ++ "/" ++ rest = name ++ "/" ++ ("rule" ++ tail) := by
    have := congrArg String.toList htail
    simp only [String.toList_append, List.append_assoc, List.append_cancel_left_eq] at this
    simpa [← String.toList_inj] using this
  obtain ⟨rfl, hrest⟩ := Text.slash_cancel_left hother hname hcancel
  exact ⟨rfl, tail, hrest⟩

/-- A key is within the rules of one rule set at most. -/
theorem eq_of_keyWithin_rulesPaths {name other k : String} (hname : '/' ∉ name.toList)
    (hother : '/' ∉ other.toList) (h : KeyWithin (rulesPath name).key k)
    (h' : KeyWithin (rulesPath other).key k) : name = other := by
  obtain ⟨tail, rfl⟩ := keyWithin_rulesPath h'
  exact (name_eq_of_keyWithin_rulesPath hname hother h).1

theorem keyWithin_of_below_numberPath {name : String} {number : Nat} {path : ConfigPath}
    (h : Below (numberPath name number) path) : KeyWithin (rulesPath name).key path.key :=
  ConfigPath.keyWithin_of_prefix rfl ((List.prefix_append _ _).trans h)

/-! ## 3. A run on its way -/

/-- A run that has put the connections `done`, each with its rule set, and has given the rule sets
`made` a sequence of numbers. -/
structure Projected (schema : SchemaNode) (numbers : CounterSettings) (made : List String)
    (done : List (String × Connection)) (g : Generation) : Prop where
  indexed : Indexed g.tree
  tidy : Tidy ruleSetsKey g.tree
  schema_eq : g.tree.schema = schema
  /-- Under the rules of a rule set stand those of its connections so far. -/
  rules : ∀ name, '/' ∉ name.toList → g.tree.get? (rulesPath name).key = rulesDefinition schema name
    (numberedRules schema name numbers.ruleStart numbers.ruleStep (connectionsOf name done))
  /-- The sequence of a rule set has given one number to each of its connections. -/
  counter : ∀ name, g.counters.get? (.firewall name) = if name ∈ made then some
    (.position numbers.ruleStart numbers.ruleStep (connectionsOf name done).length) else none
  /-- A rule set without a sequence has no connections yet. -/
  unmade : ∀ name, name ∉ made → connectionsOf name done = []
  step_ne_zero : made ≠ [] → numbers.ruleStep ≠ 0

theorem flatMap_none (items : List α) : items.flatMap (fun _ => ([] : List β)) = [] :=
  List.flatMap_eq_nil_iff.mpr fun _ _ => rfl

namespace Projected

variable {schema : SchemaNode} {settings : Settings} {numbers : CounterSettings}
  {made : List String} {done : List (String × Connection)} {g g' : Generation}

/-- A step that leaves the rules of all rule sets alone keeps them as they are. -/
theorem touches (h : Projected schema numbers made done g) {P : ConfigPath → Prop} {x : Run α}
    (hx : Touches P x) (hneat : ∀ p, P p → Neat ruleSetsKey p)
    (hapart : ∀ p, P p → ∀ name : String, '/' ∉ name.toList →
      ¬ KeyWithin (rulesPath name).key p.key) {a : α}
    (hrun : x g = .ok a g') : Projected schema numbers made done g' := by
  obtain ⟨hchanges, hcounters⟩ := hx g a g' h.indexed hrun
  exact {
    indexed := h.indexed.changes hchanges
    tidy := h.tidy.changes hneat hchanges
    schema_eq := hchanges.schema_eq.trans h.schema_eq
    rules := fun name hname => by
      rw [hchanges.get?_apart h.indexed fun p hp => hapart p hp name hname]
      exact h.rules name hname
    counter := fun name => by
      rw [RuleCounters.get?, hcounters]
      exact h.counter name
    unmade := h.unmade
    step_ne_zero := h.step_ne_zero }

/-- A step outside the rule sets leaves them as they are. -/
theorem outside (h : Projected schema numbers made done g) {x : Run α}
    (hx : Touches (Avoids ruleSetsKey) x) {a : α} (hrun : x g = .ok a g') : Projected schema numbers made done g' := by
  refine h.touches hx ?_ ?_ hrun
  · intro p hp hwithin
    exact absurd hwithin hp.not_within
  · intro p hp name _ hwithin
    exact hp.not_within ((keyWithin_ruleSetsKey name).trans hwithin)

/-- A step that only makes sequences leaves the tree and the connections. -/
theorem counted (h : Projected schema numbers made done g) {made' : List String}
    (htree : g'.tree = g.tree)
    (hcounter : ∀ name, g'.counters.get? (.firewall name) = if name ∈ made' then some
      (.position numbers.ruleStart numbers.ruleStep (connectionsOf name done).length) else none)
    (hmore : ∀ name ∈ made, name ∈ made') (hstep : made' ≠ [] → numbers.ruleStep ≠ 0) :
    Projected schema numbers made' done g' where
  indexed := htree ▸ h.indexed
  tidy := htree ▸ h.tidy
  schema_eq := htree ▸ h.schema_eq
  rules := htree ▸ h.rules
  counter := hcounter
  unmade := fun name hn => h.unmade name fun hmade => hn (hmore name hmade)
  step_ne_zero := hstep

/-- A rule set gets its sequence, or has it. -/
theorem ensureCounter (h : Projected schema settings.firewall made done g) {name : String}
    (hrun : ensureCounter settings name g = .ok () g') :
    Projected schema settings.firewall (made ++ [name]) done g' := by
  obtain ⟨fresh, u, hmake, hpure⟩ := bind_eq_ok.mp hrun
  cases hpure
  obtain ⟨hcounters, htree⟩ := count_ok hmake
  have hmore : ∀ other ∈ made, other ∈ made ++ [name] := fun _ => List.mem_append_left _
  have hcounter := h.counter name
  rcases RuleCounters.make_ok hcounters with ⟨counter, hhas, hsame⟩ | ⟨hnone, hstep, hput⟩
  · -- another network has made the sequence
    have hmade : name ∈ made := by
      by_contra hn
      rw [if_neg hn, hhas] at hcounter
      cases hcounter
    refine h.counted htree ?_ hmore fun _ => h.step_ne_zero (List.ne_nil_of_mem hmade)
    intro other
    have hiff : other ∈ made ++ [name] ↔ other ∈ made := by
      rw [List.mem_append, List.mem_singleton, or_iff_left_iff_imp]
      rintro rfl
      exact hmade
    rw [hsame, h.counter other]
    simp only [hiff]
  · have hnew : name ∉ made := by
      intro hm
      rw [if_pos hm, hnone] at hcounter
      cases hcounter
    refine h.counted htree ?_ hmore fun _ => hstep
    intro other
    rw [hput, RuleCounters.get?_put]
    by_cases ho : name = other
    · subst ho
      rw [if_pos rfl, if_pos (List.mem_append_right _ List.mem_cons_self), h.unmade name hnew,
        List.length_nil, RuleCounter.position_zero]
    · rw [if_neg (by simpa using ho), h.counter other]
      simp [Ne.symm ho]

/-- The default action of a rule set stands beside its rules. -/
theorem putDefaultAction (h : Projected schema numbers made done g) {names : RuleSetNames}
    (hnames : ∀ entry ∈ names.all, '/' ∉ entry.2.toList)
    (hrun : putDefaultAction names g = .ok () g') : Projected schema numbers made done g' := by
  unfold Generation.putDefaultAction at hrun
  cases hdefault : names.defaultAction with
  | none =>
    rw [hdefault] at hrun
    cases hrun
    exact h
  | some action =>
    rw [hdefault] at hrun
    have htouches : Touches
        (fun p => ∃ entry ∈ names.all, p = (ruleSetPath entry.2).words ["default-action"])
        (forEach names.all fun entry =>
          putShared ((ruleSetPath entry.2).words ["default-action"]) action) :=
      Touches.forEach fun entry hentry => Touches.putShared ⟨entry, hentry, rfl⟩ action
    refine h.touches htouches ?_ ?_ hrun
    · rintro _ ⟨entry, hentry, rfl⟩ _
      exact slash_not_mem_ruleSetPath (hnames entry hentry) (by decide)
    · rintro _ ⟨entry, hentry, rfl⟩ name hname hwithin
      have hsnoc : (ruleSetPath entry.2).words ["default-action"]
          = (ruleSetPath entry.2).snoc (Step.ofSegment (.fixed "default-action")) := rfl
      have hkey : ((ruleSetPath entry.2).words ["default-action"]).key
          = ruleSetsKey ++ "/" ++ (entry.2 ++ "/" ++ "default-action") := by
        rw [hsnoc, ConfigPath.key_snoc rfl, key_ruleSetPath]
        simp only [String.append_assoc]
        rfl
      rw [hkey] at hwithin
      obtain ⟨-, tail, htail⟩ :=
        name_eq_of_keyWithin_rulesPath hname (hnames entry hentry) hwithin
      have := congrArg (·.toList.head?) htail
      simp at this

/-- A connection becomes the last rule of its rule set. -/
theorem putConnection (h : Projected schema numbers made done g) {name : String}
    (hname : '/' ∉ name.toList) {c : Connection}
    (hrun : putConnection name c g = .ok () g') :
    Projected schema numbers made (done ++ [(name, c)]) g' := by
  rw [putConnection_eq] at hrun
  obtain ⟨number, u, hnext, hput⟩ := bind_eq_ok.mp hrun
  obtain ⟨hcounters, htree⟩ := count_ok hnext
  obtain ⟨counter, hhas, hupcoming, hmoved⟩ := RuleCounters.next_ok hcounters
  have hmade : name ∈ made := by
    by_contra hn
    rw [h.counter name, if_neg hn] at hhas
    cases hhas
  have hposition := h.counter name
  rw [if_pos hmade, hhas] at hposition
  obtain rfl := Option.some.inj hposition
  have hnumber := RuleCounter.toNat_of_upcoming hupcoming
  have hfresh := numberedRules_fresh schema name numbers.ruleStart numbers.ruleStep
    (connectionsOf name done) (h.step_ne_zero (List.ne_nil_of_mem hmade))
  rw [← hnumber] at hfresh
  -- the rule set before the rule, and after it
  have hdraft : Draft schema name number.toNat (numberedRules schema name numbers.ruleStart
      numbers.ruleStep (connectionsOf name done)) [] u := {
    indexed := htree ▸ h.indexed
    tidy := htree ▸ h.tidy
    schema_eq := htree ▸ h.schema_eq
    here := by
      rw [htree, h.rules name hname]
      simp [holding] }
  rw [rulePath_eq] at hput
  have hwhole := putRule_draft hdraft hname hfresh hput
  obtain ⟨hchanges, hsequences⟩ := Touches.putRule _ c u () g' hdraft.indexed hput
  exact {
    indexed := hwhole.indexed
    tidy := hwhole.tidy
    schema_eq := hwhole.schema_eq
    rules := fun other hother => by
      by_cases ho : name = other
      · subst ho
        rw [hwhole.here, connectionsOf_concat_self, numberedRules_concat, emptyRule_holding,
          Option.toList_some, hnumber]
      · rw [hchanges.get?_apart hdraft.indexed fun p hp hin =>
            ho (eq_of_keyWithin_rulesPaths hname hother (keyWithin_of_below_numberPath hp) hin),
          htree, h.rules other hother, connectionsOf_concat_of_ne ho]
    counter := fun other => by
      rw [RuleCounters.get?, hsequences, ← RuleCounters.get?, hmoved, RuleCounters.get?_put]
      by_cases ho : name = other
      · subst ho
        rw [if_pos rfl, if_pos hmade, connectionsOf_concat_self, RuleCounter.advance_position,
          List.length_append, List.length_singleton]
      · rw [if_neg (by simpa using ho), h.counter other, connectionsOf_concat_of_ne ho]
    unmade := fun other hn => by
      have ho : name ≠ other := by
        rintro rfl
        exact hn hmade
      rw [connectionsOf_concat_of_ne ho, h.unmade other hn]
    step_ne_zero := h.step_ne_zero }

/-- What each item adds to the sequences and the rules, the items add one after the other. -/
theorem forEach (h : Projected schema numbers made done g) (names : α → List String)
    (rules : α → List (String × Connection)) {step : α → Run Unit} {items : List α}
    (hstep : ∀ item ∈ items, ∀ made done g g', Projected schema numbers made done g →
      step item g = .ok () g' →
      Projected schema numbers (made ++ names item) (done ++ rules item) g')
    (hrun : forEach items step g = .ok () g') :
    Projected schema numbers (made ++ items.flatMap names) (done ++ items.flatMap rules) g' := by
  have hnil : Projected schema numbers (made ++ [].flatMap names) (done ++ [].flatMap rules) g := by
    simpa using h
  refine forEach_ok (I := fun before g =>
    Projected schema numbers (made ++ before.flatMap names) (done ++ before.flatMap rules) g)
    items ?_ hnil hrun
  intro item hitem before u u' hbefore hone
  have := hstep item hitem _ _ u u' hbefore hone
  simpa [List.flatMap_append, List.append_assoc] using this

/-- Items that need no new sequence add their rules. -/
theorem forEach_rules (h : Projected schema numbers made done g)
    (rules : α → List (String × Connection)) {step : α → Run Unit} {items : List α}
    (hstep : ∀ item ∈ items, ∀ made done g g', Projected schema numbers made done g →
      step item g = .ok () g' → Projected schema numbers made (done ++ rules item) g')
    (hrun : Generation.forEach items step g = .ok () g') :
    Projected schema numbers made (done ++ items.flatMap rules) g' := by
  have := h.forEach (fun _ => []) rules (by simpa using hstep) hrun
  rwa [flatMap_none, List.append_nil] at this

/-- The connections of a host become rules of the rule sets that its network names for them. -/
theorem putHost (h : Projected schema numbers made done g) {network : Network}
    (hnames : ∀ name ∈ network.ruleSets, '/' ∉ name.toList) {subnet : ConfigPath}
    (hsubnet : Avoids ruleSetsKey subnet) {host : Host}
    (hrun : putHost settings network subnet host g = .ok () g') :
    Projected schema numbers made (done ++ host.rules network) g' := by
  have hmapping := hsubnet.append [.fixed "static-mapping", .value host.name]
  obtain ⟨_, g₁, haddress, hrun⟩ := bind_eq_ok.mp hrun
  obtain ⟨_, g₂, hmac, hrun⟩ := bind_eq_ok.mp hrun
  obtain ⟨_, g₃, hextra, hrun⟩ := bind_eq_ok.mp hrun
  obtain ⟨_, g₄, hconnections, hforwards⟩ := bind_eq_ok.mp hrun
  have h₁ := h.outside (Touches.put (hmapping.words _) _) haddress
  have h₂ := h₁.outside (Touches.putIfSome (hmapping.words _) _) hmac
  have h₃ := h₂.outside (Touches.putTemplate (fun _ hp => hmapping.below hp) _) hextra
  have h₄ := h₃.forEach_rules (fun c => [(network.ruleSet c.direction, c)]) (by
    intro c _ made done u u' hu hc
    rw [← network.name_eq_ruleSet]
    exact hu.putConnection (hnames _ (network.name_mem_ruleSets _)) hc) hconnections
  have h₅ := h₄.outside (Touches.putForwards settings host) hforwards
  rwa [← List.map_eq_flatMap] at h₅

/-- A subnet adds the connections of its hosts. -/
theorem putSubnet (h : Projected schema numbers made done g) {network : Network}
    (hnames : ∀ name ∈ network.ruleSets, '/' ∉ name.toList) {s : Subnet}
    (hrun : putSubnet settings network s g = .ok () g') :
    Projected schema numbers made (done ++ s.rules network) g' := by
  have hbase := subnetPath_avoids network s
  obtain ⟨_, g₁, hensure, hrun⟩ := bind_eq_ok.mp hrun
  obtain ⟨_, g₂, hrouter, hrun⟩ := bind_eq_ok.mp hrun
  obtain ⟨_, g₃, hdns, hrun⟩ := bind_eq_ok.mp hrun
  obtain ⟨_, g₄, hdomain, hrun⟩ := bind_eq_ok.mp hrun
  obtain ⟨_, g₅, hlease, hrun⟩ := bind_eq_ok.mp hrun
  obtain ⟨_, g₆, hrange, hrun⟩ := bind_eq_ok.mp hrun
  obtain ⟨_, g₇, hextra, hhosts⟩ := bind_eq_ok.mp hrun
  have h₁ := h.outside (Touches.discard (Touches.ensure hbase)) hensure
  have h₂ := h₁.outside (Touches.put (hbase.words _) _) hrouter
  have h₃ := h₂.outside (Touches.putAny (hbase.words _) _) hdns
  have h₄ := h₃.outside (Touches.putIfSome (hbase.words _) _) hdomain
  have h₅ := h₄.outside (Touches.putIfSome (hbase.words _) _) hlease
  have h₆ := h₅.outside (Touches.putRange hbase _) hrange
  have h₇ := h₆.outside (Touches.putTemplate (fun _ hp => hbase.below hp) _) hextra
  exact h₇.forEach_rules (Host.rules network) (by
    intro host _ made done u u' hu hhost
    exact hu.putHost hnames hbase hhost) hhosts

/-- A network gives its rule sets their sequences and adds the connections of its subnets. -/
theorem putNetwork (h : Projected schema settings.firewall made done g) {network : Network}
    (hnames : ∀ name ∈ network.ruleSets, '/' ∉ name.toList)
    (hrun : putNetwork settings network g = .ok () g') :
    Projected schema settings.firewall (made ++ network.ruleSets) (done ++ network.rules) g' := by
  have hinterface : Avoids ruleSetsKey
      (.ofSegments [.fixed "interfaces", .fixed "ethernet", .value network.interface]) :=
    interface_avoids _
  obtain ⟨_, g₁, hcounters, hrun⟩ := bind_eq_ok.mp hrun
  obtain ⟨_, g₂, hensure, hrun⟩ := bind_eq_ok.mp hrun
  obtain ⟨_, g₃, hdescription, hrun⟩ := bind_eq_ok.mp hrun
  obtain ⟨_, g₄, haddress, hrun⟩ := bind_eq_ok.mp hrun
  obtain ⟨_, g₅, hattach, hrun⟩ := bind_eq_ok.mp hrun
  obtain ⟨_, g₆, hextra, hrun⟩ := bind_eq_ok.mp hrun
  obtain ⟨_, g₇, hdefault, hsubnets⟩ := bind_eq_ok.mp hrun
  have h₁ := h.forEach (fun entry => [entry.2]) (fun _ => []) (by
    intro entry _ made done u u' hu hentry
    rw [List.append_nil]
    exact hu.ensureCounter hentry) hcounters
  rw [← List.map_eq_flatMap, flatMap_none, List.append_nil] at h₁
  have h₂ := h₁.outside (Touches.discard (Touches.ensure hinterface)) hensure
  have h₃ := h₂.outside (Touches.putIfSome (hinterface.words _) _) hdescription
  have h₄ := h₃.outside (Touches.putAny (hinterface.words _) _) haddress
  have h₅ := h₄.outside (Touches.forEach fun _ _ => Touches.attachRuleSet hinterface _) hattach
  have h₆ := h₅.outside (Touches.putTemplate (fun _ hp => hinterface.below hp) _) hextra
  have h₇ := h₆.putDefaultAction
    (fun entry hentry => hnames _ (List.mem_map_of_mem hentry)) hdefault
  exact h₇.forEach_rules (Subnet.rules network) (by
    intro s _ made done u u' hu hsubnet
    exact hu.putSubnet hnames hsubnet) hsubnets

end Projected

/-! ## 4. Whole runs -/

/-- The settings of the inventory put nothing at or below the key. -/
def SettingsAvoid (top : String) (schema : SchemaNode) (settings : Settings)
    (inventory : Inventory) : Prop :=
  ∀ k ∈ ((Definitions.insertTemplate .root inventory.settings).after
    (.new schema settings.policy)).paths, ¬ KeyWithin top k

/-- After such settings, a run has nothing at or below the key. -/
theorem vacant_settings {top : String} {schema : SchemaNode} {settings : Settings}
    {inventory : Inventory} (hapart : SettingsAvoid top schema settings inventory)
    {g g' : Generation} (htree : g.tree = .new schema settings.policy)
    (hrun : putTemplate .root inventory.settings g = .ok () g') :
    Indexed g'.tree ∧ Tidy top g'.tree ∧ g'.tree.schema = schema ∧ g'.counters = g.counters ∧
      ∀ k, KeyWithin top k → g'.tree.get? k = none := by
  obtain ⟨hput, hsame⟩ := edit_ok hrun
  rw [htree] at hput
  rw [SettingsAvoid, Edit.after_ok hput] at hapart
  have hnew := indexed_new schema settings.policy
  have hchanges := keeps_insertTemplate .root inventory.settings _ hnew
  rw [Edit.after_ok hput] at hchanges
  have hindexed := hnew.changes hchanges
  refine ⟨hindexed, ?_, hchanges.schema_eq, hsame, ?_⟩
  · intro l f hf hwithin
    have hindex : g'.tree.index.get? f.key = some l := hindexed.index_iff.mpr ⟨f, hf, rfl⟩
    exact absurd hwithin (hapart _ (Dictionary.mem_keys.mpr ⟨l, hindex⟩))
  · intro k hwithin
    refine hindexed.get?_eq_none.mpr ?_
    cases hindex : g'.tree.index.get? k with
    | none => rfl
    | some l => exact absurd hwithin (hapart _ (Dictionary.mem_keys.mpr ⟨l, hindex⟩))

/-- After its settings, a run has no rule set yet. -/
theorem projected_settings {schema : SchemaNode} {settings : Settings} {inventory : Inventory}
    (hapart : SettingsAvoid ruleSetsKey schema settings inventory) {g g' : Generation}
    (htree : g.tree = .new schema settings.policy) (hcounters : g.counters.firewall = ∅)
    (hrun : putTemplate .root inventory.settings g = .ok () g') :
    Projected schema settings.firewall [] [] g' := by
  obtain ⟨hindexed, htidy, hschema, hsame, hvacant⟩ :=
    @vacant_settings ruleSetsKey schema settings inventory hapart g g' htree hrun
  exact {
    indexed := hindexed
    tidy := htidy
    schema_eq := hschema
    rules := fun name _ => hvacant _ (keyWithin_ruleSetsKey name)
    counter := by
      intro name
      rw [hsame, RuleCounters.get?, hcounters]
      rfl
    unmade := fun _ _ => rfl
    step_ne_zero := fun h => absurd rfl h }

/-- **The rules of every rule set are those of its connections in the order of the inventory, and
its sequence has given one number to each.** -/
theorem firewall_rules {schema : SchemaNode} {settings : Settings} {inventory : Inventory}
    {run : Generation} (hrun : generate schema settings inventory = .ok run)
    (hnames : ∀ name ∈ inventory.ruleSets, '/' ∉ name.toList)
    (hapart : SettingsAvoid ruleSetsKey schema settings inventory) :
    (∀ name, '/' ∉ name.toList → run.tree.get? ("firewall/name/" ++ name ++ "/rule")
      = rulesDefinition schema name (numberedRules schema name settings.firewall.ruleStart
          settings.firewall.ruleStep (connectionsOf name inventory.rules))) ∧
      ∀ name, run.counters.get? (.firewall name) = if name ∈ inventory.ruleSets then
        some (.position settings.firewall.ruleStart settings.firewall.ruleStep
          (connectionsOf name inventory.rules).length) else none := by
  obtain ⟨_, g₁, hmake, hput⟩ := bind_eq_ok.mp (generate_ok hrun)
  obtain ⟨_, g₂, hsettings, hput⟩ := bind_eq_ok.mp hput
  obtain ⟨_, g₃, hgroups, hnetworks⟩ := bind_eq_ok.mp hput
  obtain ⟨made, u, hmake, hpure⟩ := bind_eq_ok.mp hmake
  cases hpure
  have h₂ : Projected schema settings.firewall [] [] g₂ :=
    projected_settings hapart (count_ok hmake).2
      (Touches.make_nat (P := fun _ => False) _ _ _ _ _ (indexed_new _ _) hmake).2 hsettings
  have h₃ := h₂.outside (Touches.forEach fun group _ => Touches.putPortGroup group) hgroups
  have h₄ := h₃.forEach Network.ruleSets Network.rules (by
    intro network hnetwork made done u u' hu hone
    exact hu.putNetwork (fun name hname =>
      hnames name (List.mem_flatMap.mpr ⟨network, hnetwork, hname⟩)) hone) hnetworks
  constructor
  · intro name hname
    have hkey : (rulesPath name).key = "firewall/name/" ++ name ++ "/rule" := key_rulesPath name
    rw [← hkey]
    exact h₄.rules name hname
  · exact h₄.counter

/-- A network has one rule set for two directions. -/
theorem firewall_rules_shared :
    let ssh : Connection :=
      { direction := .inbound, allow := true, source := some { address := some "10.0.0.7" },
        destination := some { port := some (.integer 22), portGroup := some "admin" } }
    let web : Connection := { direction := .outbound, allow := false, log := true }
    let lan : Network :=
      { name := "LAN", interface := "eth1", firewall := ⟨"EDGE", "EDGE", "SELF", none⟩,
        subnets := [
          { cidr := "10.1.0.0/24", router := "10.1.0.1",
            hosts := [{ name := "a", ipAddress := "10.1.0.2", connections := [web, ssh] }] }] }
    let inventory : Inventory :=
      { settings := .ofEntries [("system", .node [("host-name", .scalar (.text "gw"))])],
        networks := [lan] }
    (∀ name ∈ inventory.ruleSets, '/' ∉ name.toList) ∧
      SettingsAvoid ruleSetsKey default {} inventory ∧
      ∃ run, generate default {} inventory = .ok run ∧
        (run.tree.get? "firewall/name/EDGE/rule").map (fun rules => rules.children.map fun rule =>
          (rule.name, (walkAll rule.children).map fun d => (d.name, d.value))) = some
          [("1000", [("action", .single "drop"), ("protocol", .single "all"),
              ("log", .single "enable")]),
            ("1010", [("action", .single "accept"), ("protocol", .single "all"),
              ("log", .single "disable"), ("source", .empty), ("address", .single "10.0.0.7"),
              ("destination", .empty), ("port", .single "22"), ("group", .empty),
              ("port-group", .single "admin")])] ∧
        run.tree.get? "firewall/name/SELF/rule" = none ∧
        run.counters.get? (.firewall "EDGE") = some ⟨10, some 1020⟩ := by
  intro ssh web lan inventory
  have hok : (generate default {} inventory).toOption.isSome = true := by decide +kernel
  have hnames : ∀ name ∈ inventory.ruleSets, '/' ∉ name.toList := by decide +kernel
  have hkeys : ∀ k ∈ ((Definitions.insertTemplate .root inventory.settings).after
      (.new default (Settings.policy {}))).paths, ¬ ruleSetsKey.toList <+: k.toList := by
    decide +kernel
  have havoid : SettingsAvoid ruleSetsKey default {} inventory := fun k hk hwithin =>
    hkeys k hk (toList_prefix_of_keyWithin hwithin)
  cases hrun : generate default {} inventory with
  | error cause =>
    rw [hrun] at hok
    cases hok
  | ok run =>
    obtain ⟨hrules, hcounter⟩ := firewall_rules hrun hnames havoid
    have hedge : "firewall/name/EDGE/rule" = "firewall/name/" ++ "EDGE" ++ "/rule" := by decide
    have hself : "firewall/name/SELF/rule" = "firewall/name/" ++ "SELF" ++ "/rule" := by decide
    refine ⟨hnames, havoid, run, rfl, ?_, ?_, ?_⟩
    · rw [hedge, hrules "EDGE" (by decide)]
      decide +kernel
    · rw [hself, hrules "SELF" (by decide)]
      rfl
    · rw [hcounter "EDGE"]
      decide +kernel

end Generation

end RouterConfig
