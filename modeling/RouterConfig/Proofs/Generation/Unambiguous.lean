/-
RouterConfig.Proofs.Generation.Unambiguous — inventories whose runs set no
value twice.

`strict_accepts_unambiguous`: under the strict policy a run with an
unambiguous inventory stops for want of rule numbers only, which is when a
step is zero or a sequence is exhausted, and it succeeds when no step is
zero and the numbers of all rules have 32 bits.

## How the proof goes

In an unambiguous inventory no two things have one name where it matters,
and no name holds a slash, the length of a network apart. Each thing then
has a stem for itself (`Generation.Spots`), and each step fills only spots
below its own stems, which are free when it comes to them. `Advances`, of
`Generation.Progress`, says so of a step and is put together for hosts,
subnets and networks (`advances_putHost` to `advances_putInventory`). A run
can therefore fail for no other reason than that rules cannot be numbered
(`generate_outcome`). How many numbers are taken is counted in the inventory
(`count_takes_firewall`, `count_takes_nat`).

## Side conditions

`Inventory.Unambiguous` lists them: there are no settings and no further
entries of networks, subnets or hosts; port groups, interfaces, subnets of a
network and hosts of a subnet have names of their own; networks that share a
rule set do not want different default actions of it; and names are plain. A
network address may have its length behind a slash (`CidrPieces`). One host
may forward one port once only, which its record grants.
-/
import Mathlib.Algebra.Group.Nat.Defs
import RouterConfig.Proofs.Generation.Blocks
import RouterConfig.Proofs.Generation.Firewall
import RouterConfig.Proofs.Generation.Progress
import RouterConfig.Proofs.Generation.Strict

namespace RouterConfig

/-! ## 1. Unambiguous inventories -/

/-- The rule sets that a host takes numbers from, one for each rule. -/
def Host.takes (network : Network) (h : Host) : List RuleSet :=
  (h.connections.map fun c => .firewall (network.firewall.name c.direction)) ++
    h.forwards.sorted.map fun _ => .nat

/-- Those that a subnet takes numbers from, host by host. -/
def Subnet.takes (network : Network) (s : Subnet) : List RuleSet :=
  s.hosts.flatMap (Host.takes network)

/-- Those that a network takes numbers from, subnet by subnet. -/
def Network.takes (network : Network) : List RuleSet :=
  network.subnets.flatMap (Subnet.takes network)

namespace Inventory

/-- Those that the networks take numbers from. -/
def takes (inventory : Inventory) : List RuleSet := inventory.networks.flatMap Network.takes

/-- All forwarded ports, network by network. -/
def forwards (inventory : Inventory) : List (UInt16 × UInt16) :=
  inventory.networks.flatMap fun n => n.subnets.flatMap fun s => s.hosts.flatMap (·.forwards.pairs)

/-- The names of networks with the addresses of their subnets. -/
def sites (inventory : Inventory) : List (String × String) :=
  inventory.networks.flatMap fun n => n.subnets.map fun s => (n.name, s.cidr)

open Generation in
/-- An inventory without further settings in which no two things have one name, and no name has a
slash. -/
structure Unambiguous (inventory : Inventory) : Prop where
  settings : inventory.settings = ∅
  networks_extra : ∀ n ∈ inventory.networks, n.extra = ∅
  subnets_extra : ∀ n ∈ inventory.networks, ∀ s ∈ n.subnets, s.extra = ∅
  hosts_extra : ∀ n ∈ inventory.networks, ∀ s ∈ n.subnets, ∀ h ∈ s.hosts, h.extra = ∅
  portGroups : (inventory.portGroups.map (·.name)).Nodup
  interfaces : (inventory.networks.map (·.interface)).Nodup
  sites : inventory.sites.Nodup
  hosts : ∀ n ∈ inventory.networks, ∀ s ∈ n.subnets, (s.hosts.map (·.name)).Nodup
  /-- Networks that share a rule set do not want different default actions of it. -/
  actions : ∀ n ∈ inventory.networks, ∀ m ∈ inventory.networks, ∀ name ∈ n.ruleSets,
    name ∈ m.ruleSets → n.firewall.defaultAction = m.firewall.defaultAction ∨
      n.firewall.defaultAction = none ∨ m.firewall.defaultAction = none
  plain_portGroups : ∀ g ∈ inventory.portGroups, Plain g.name
  plain_networks : ∀ n ∈ inventory.networks, Plain n.name ∧ Plain n.interface
  plain_ruleSets : ∀ name ∈ inventory.ruleSets, Plain name
  plain_hosts : ∀ n ∈ inventory.networks, ∀ s ∈ n.subnets, ∀ h ∈ s.hosts, Plain h.name
  /-- A network address may have its length after a slash. -/
  cidrs : ∀ n ∈ inventory.networks, ∀ s ∈ n.subnets, ∃ pieces, CidrPieces s.cidr pieces

open Generation in
theorem Unambiguous.plain_ruleSet {inventory : Inventory} (h : inventory.Unambiguous)
    {network : Network} (hnetwork : network ∈ inventory.networks) {name : String}
    (hname : name ∈ network.ruleSets) : Plain name :=
  h.plain_ruleSets name (List.mem_flatMap.mpr ⟨network, hnetwork, hname⟩)

/-- The default action of a rule set: that of the first network that has one for it. -/
def defaultAction (inventory : Inventory) (name : String) : String :=
  (inventory.networks.findSome? fun n =>
    if name ∈ n.ruleSets then n.firewall.defaultAction else none).getD ""

/-- All networks with a rule set that have a default action have the same. -/
theorem Unambiguous.defaultAction_eq {inventory : Inventory} (h : inventory.Unambiguous)
    {n : Network} (hn : n ∈ inventory.networks) {name : String} (hname : name ∈ n.ruleSets)
    {action : String} (haction : n.firewall.defaultAction = some action) :
    inventory.defaultAction name = action := by
  rw [defaultAction]
  cases hfirst : inventory.networks.findSome? fun n =>
      if name ∈ n.ruleSets then n.firewall.defaultAction else none with
  | none =>
    have := List.findSome?_eq_none_iff.mp hfirst n hn
    rw [if_pos hname, haction] at this
    cases this
  | some first =>
    obtain ⟨m, hm, hfirst⟩ := List.exists_of_findSome?_eq_some hfirst
    split at hfirst
    case isTrue hname' =>
      have := h.actions n hn m hm name hname hname'
      simp_all
    case isFalse => cases hfirst

end Inventory

namespace Generation

open Definitions

variable {settings : Settings} {actions : String → String}

/-! ## 2. Steps that number rules -/

/-- The network and the address of the subnet that a stem belongs to. -/
def Stem.site? : Stem → Option (String × String)
  | .subnet network cidr => some (network, cidr)
  | .mapping network cidr _ => some (network, cidr)
  | _ => none

variable {needs : List RuleSet}

theorem advances_putConnection {name : String} (hname : Plain name) (hmade : .firewall name ∈ needs)
    (c : Connection) :
    Advances settings actions needs ∅ [.firewall name] (putConnection name c) := by
  rw [putConnection_eq]
  exact .numbered hmade fun number => sets_putRule hname number c

theorem advances_putForward (hmade : .nat ∈ needs) (h : Host) (forward : UInt16 × UInt16) :
    Advances settings actions needs ∅ [.nat] (putForward settings h forward) :=
  .numbered hmade fun number => sets_putTranslation h forward number

section Network

variable {network : Network} (hmade : ∀ name ∈ network.ruleSets, .firewall name ∈ needs)
  (hnat : .nat ∈ needs) (hruleSets : ∀ name ∈ network.ruleSets, Plain name)
  (hnetwork : Plain network.name)
include hmade hnat hruleSets hnetwork

theorem advances_putHost {s : Subnet} {pieces : List String} (hcidr : CidrPieces s.cidr pieces)
    {h : Host} (hname : Plain h.name) (hextra : h.extra = ∅) :
    Advances settings actions needs {.mapping network.name s.cidr h.name} (h.takes network)
      (putHost settings network (subnetPath network s) h) := by
  have hmapping : Advances settings actions needs {.mapping network.name s.cidr h.name} []
      (putMapping ((subnetPath network s).append [.fixed "static-mapping", .value h.name]) h) :=
    .sets_below (sets_putMapping hnetwork hcidr hname hextra) id
  have hconnections : Advances settings actions needs ∅ _ (forEach h.connections fun c =>
      putConnection (network.firewall.name c.direction) c) :=
    .forEach_none fun c _ =>
      advances_putConnection (hruleSets _ (network.name_mem_ruleSets c.direction))
        (hmade _ (network.name_mem_ruleSets c.direction)) c
  have hforwards : Advances settings actions needs ∅ _ (putForwards settings h) :=
    .forEach_none fun forward _ => advances_putForward hnat h forward
  rw [putHost_eq, Host.takes, List.map_eq_flatMap, List.map_eq_flatMap]
  have := hmapping.bind (fun _ => hconnections.bind (fun _ => hforwards) (Set.disjoint_empty _))
    (by simp)
  rwa [Set.union_empty, Set.union_empty, List.nil_append] at this

theorem advances_putSubnet {s : Subnet} {pieces : List String} (hcidr : CidrPieces s.cidr pieces)
    (hextra : s.extra = ∅) (hhosts : (s.hosts.map (·.name)).Nodup)
    (hplain : ∀ h ∈ s.hosts, Plain h.name) (hextras : ∀ h ∈ s.hosts, h.extra = ∅) :
    Advances settings actions needs {stem | stem.site? = some (network.name, s.cidr)}
      (s.takes network) (putSubnet settings network s) := by
  have hoptions : Advances settings actions needs {.subnet network.name s.cidr} []
      (putSubnetOptions (subnetPath network s) s) :=
    .sets_below (sets_putSubnetOptions hnetwork hcidr hextra) id
  have hmappings : Advances settings actions needs
      {stem | ∃ h ∈ s.hosts, stem ∈ ({.mapping network.name s.cidr h.name} : Set Stem)}
      (s.takes network) (forEach s.hosts (putHost settings network (subnetPath network s))) := by
    refine .forEach (fun h hh => advances_putHost hmade hnat hruleSets hnetwork hcidr
      (hplain h hh) (hextras h hh)) ?_
    refine (List.pairwise_map.mp hhosts).imp ?_
    intro h h' hne
    simpa using hne
  rw [putSubnet_eq]
  refine (hoptions.bind (fun _ => hmappings) ?_).mono (List.Subset.refl _) ?_
  · rw [Set.disjoint_singleton_left]
    rintro ⟨h, -, hh⟩
    cases hh
  · rintro stem (rfl | ⟨h, -, rfl⟩)
    · rfl
    · rfl

end Network

/-! ## 3. Whole runs -/

theorem advances_ensureCounters (names : RuleSetNames) : Advances settings actions needs ∅ []
    (forEach names.all fun entry => ensureCounter settings entry.2) := by
  have hmake : ∀ entry ∈ names.all, Advances settings actions needs ∅ []
      (ensureCounter settings entry.2) := fun entry _ => (Advances.make (.firewall entry.2)).discard
  have := Advances.forEach_none hmake
  rwa [flatMap_none] at this

theorem contains_of_ensureCounters {names : RuleSetNames} {g g' : Generation}
    (h : forEach names.all (fun entry => ensureCounter settings entry.2) g = .ok () g') :
    ∀ entry ∈ names.all, g'.counters.contains (.firewall entry.2) = true := by
  have hnone : ∀ entry ∈ ([] : List (Direction × String)),
      g.counters.contains (.firewall entry.2) = true := by simp
  refine forEach_ok (I := fun done g => ∀ entry ∈ done,
    g.counters.contains (.firewall entry.2) = true) names.all ?_ hnone h
  intro entry _ done u u' hdone hrun other hother
  rcases List.mem_append.mp hother with hother | hother
  · exact contains_of_make hrun (.inr (hdone other hother))
  · obtain rfl := List.mem_singleton.mp hother
    exact contains_of_make hrun (.inl rfl)

/-- The stems of a network: that of its interface and those of its subnets. -/
def networkStems (network : Network) : Set Stem :=
  {stem | stem = .interface network.interface ∨
    ∃ s ∈ network.subnets, stem.site? = some (network.name, s.cidr)}

section Inventory

variable {inventory : Inventory} (h : inventory.Unambiguous)
include h

/-- The subnets of a network have different addresses. -/
theorem advances_putSubnets {network : Network} (hnetwork : network ∈ inventory.networks)
    (hmade : ∀ name ∈ network.ruleSets, .firewall name ∈ needs) (hnat : .nat ∈ needs) :
    Advances settings actions needs
      {stem | ∃ s ∈ network.subnets,
        stem ∈ {stem : Stem | stem.site? = some (network.name, s.cidr)}}
      network.takes (forEach network.subnets (putSubnet settings network)) := by
  refine .forEach ?_ ?_
  · intro s hs
    obtain ⟨pieces, hcidr⟩ := h.cidrs network hnetwork s hs
    exact advances_putSubnet hmade hnat (fun name => h.plain_ruleSet hnetwork)
      (h.plain_networks network hnetwork).1 hcidr (h.subnets_extra network hnetwork s hs)
      (h.hosts network hnetwork s hs) (h.plain_hosts network hnetwork s hs)
      (h.hosts_extra network hnetwork s hs)
  · refine (List.pairwise_map.mp ((List.nodup_flatMap.mp h.sites).1 network hnetwork)).imp ?_
    intro s s' hne
    rw [Set.disjoint_left]
    intro stem hs hs'
    exact hne (Option.some.inj (hs.symm.trans hs'))

theorem advances_putNetwork {network : Network} (hnetwork : network ∈ inventory.networks)
    (hnat : .nat ∈ needs) : Advances settings inventory.defaultAction needs (networkStems network)
      network.takes (putNetwork settings network) := by
  have hentries : ∀ entry ∈ network.firewall.all, entry.2 ∈ network.ruleSets :=
    fun entry hentry => List.mem_map_of_mem hentry
  have hputInterface : Advances settings inventory.defaultAction
      (needs ++ network.ruleSets.map .firewall) {.interface network.interface} []
      (putInterface (.ofSegments
        [.fixed "interfaces", .fixed "ethernet", .value network.interface]) network) :=
    .sets_below (sets_putInterface (h.plain_networks network hnetwork).2
      (h.networks_extra network hnetwork)) id
  have hputAction : Advances settings inventory.defaultAction
      (needs ++ network.ruleSets.map .firewall) ∅ [] (putDefaultAction network.firewall) := by
    refine .sets (sets_putDefaultAction ?_ ?_) (by simp)
    · exact fun entry hentry => h.plain_ruleSet hnetwork (hentries entry hentry)
    · intro entry hentry action haction
      exact h.defaultAction_eq hnetwork (hentries entry hentry) haction
  rw [putNetwork_eq]
  have hmakes : ∀ g a g', forEach network.firewall.all (fun entry => ensureCounter settings entry.2)
      g = .ok a g' → ∀ name ∈ network.ruleSets.map .firewall, g'.counters.contains name = true := by
    intro g _ g' hrun _ hmade
    obtain ⟨_, hruleSet, rfl⟩ := List.mem_map.mp hmade
    rw [network.ruleSets_eq_map] at hruleSet
    obtain ⟨entry, hentry, rfl⟩ := List.mem_map.mp hruleSet
    exact contains_of_ensureCounters hrun entry hentry
  refine ((advances_ensureCounters network.firewall).bind_making hmakes (fun _ =>
    hputInterface.bind (fun _ => hputAction.bind (fun _ =>
      advances_putSubnets h hnetwork ?_ (List.mem_append_left _ hnat))
      (Set.empty_disjoint _)) ?_) (Set.empty_disjoint _)).mono (List.Subset.refl _) ?_
  · exact fun name hname => List.mem_append_right _ (List.mem_map_of_mem hname)
  · rw [Set.empty_union, Set.disjoint_singleton_left]
    rintro ⟨s, -, hs⟩
    cases hs
  · rw [Set.empty_union, Set.empty_union]
    exact fun _ hstem => hstem

/-- Different networks have different interfaces, and no subnet in common. -/
theorem advances_putNetworks (hnat : .nat ∈ needs) :
    Advances settings inventory.defaultAction needs
      {stem | ∃ n ∈ inventory.networks, stem ∈ networkStems n} inventory.takes
      (forEach inventory.networks (putNetwork settings)) := by
  refine .forEach (fun n hn => advances_putNetwork h hn hnat) ?_
  have hsites := (List.nodup_flatMap.mp h.sites).2
  refine ((List.pairwise_map.mp h.interfaces).and hsites).imp ?_
  rintro n m ⟨hinterface, hsites⟩
  rw [Set.disjoint_left]
  rintro stem (rfl | ⟨s, hs, hsite⟩) (hstem | ⟨s', hs', hsite'⟩)
  · exact hinterface (Stem.interface.inj hstem)
  · cases hsite'
  · subst hstem
    cases hsite
  · have heq := Option.some.inj (hsite.symm.trans hsite')
    exact hsites (List.mem_map_of_mem hs) (heq ▸ List.mem_map_of_mem hs')

theorem advances_putPortGroups : Advances settings actions needs
    {stem | ∃ g ∈ inventory.portGroups, stem ∈ ({.portGroup g.name} : Set Stem)} []
    (forEach inventory.portGroups putPortGroup) := by
  have hput : ∀ g ∈ inventory.portGroups, Advances settings actions needs
      {.portGroup g.name} [] (putPortGroup g) :=
    fun g hg => .sets_below (sets_putPortGroup (h.plain_portGroups g hg)) id
  have := Advances.forEach hput ((List.pairwise_map.mp h.portGroups).imp (by simp))
  rwa [flatMap_none] at this

theorem advances_putInventory : Advances settings inventory.defaultAction [] Set.univ
    inventory.takes (putInventory settings inventory) := by
  have hmakes : ∀ g a g', Functor.discard (count (RuleCounters.make .nat settings.nat.ruleStart
      settings.nat.ruleStep)) g = .ok a g' → ∀ name ∈ [.nat], g'.counters.contains name = true := by
    intro g _ g' hrun name hname
    obtain rfl := List.mem_singleton.mp hname
    exact contains_of_make hrun (.inl rfl)
  have htemplate : Advances settings inventory.defaultAction [.nat] ∅ [] (putTemplate .root ∅) :=
    .sets (.putTemplate_empty .root) (by simp)
  rw [putInventory, h.settings]
  refine ((Advances.make .nat).discard.bind_making hmakes (fun _ => htemplate.bind (fun _ =>
    (advances_putPortGroups h).bind (fun _ =>
      advances_putNetworks h (List.mem_singleton_self _)) ?_) (Set.empty_disjoint _))
    (Set.empty_disjoint _)).mono (List.Subset.refl _) (Set.subset_univ _)
  rw [Set.disjoint_left]
  rintro _ ⟨g, -, rfl⟩ ⟨n, -, hstem | ⟨s, -, hsite⟩⟩
  · cases hstem
  · cases hsite

/-- **A run fails for no other reason than that rules cannot be numbered.** -/
theorem generate_outcome (schema : SchemaNode) (settings : Settings) :
    (∃ run, generate schema settings inventory = .ok run) ∨
      ∃ cause, generate schema settings inventory = .error cause ∧
        Excused settings inventory.takes cause := by
  have hstart : Progress settings inventory.defaultAction ∅ [] (start schema settings) :=
    ⟨.new schema settings.policy, .start⟩
  have hadvances : Advances settings inventory.defaultAction [] Set.univ inventory.takes
      (putInventory settings inventory) := advances_putInventory h
  have hreaches := hadvances ∅ [] (start schema settings) hstart (by simp) (Set.disjoint_empty _)
  rw [List.nil_append] at hreaches
  unfold generate
  cases hrun : putInventory settings inventory (start schema settings) with
  | ok a run => exact .inl ⟨run, rfl⟩
  | error cause run =>
    rw [hrun] at hreaches
    exact .inr ⟨cause, rfl, hreaches⟩

end Inventory

/-! ## 4. Counting rules -/

theorem count_flatMap_eq {items : List α} {f : α → List RuleSet} {k : α → List β} {name : RuleSet}
    {p : β → Bool} (h : ∀ item ∈ items, (f item).count name = (k item).countP p) :
    (items.flatMap f).count name = (items.flatMap k).countP p := by
  rw [List.count_flatMap, List.countP_flatMap]
  exact congrArg List.sum (List.map_congr_left h)

theorem length_connectionsOf (name : String) (rules : List (String × Connection)) :
    (connectionsOf name rules).length = rules.countP fun r => decide (r.1 = name) := by
  rw [connectionsOf, List.length_map, List.countP_eq_length_filter]

/-- A rule set gets as many numbers as it has connections. -/
theorem count_takes_firewall (inventory : Inventory) (name : String) :
    inventory.takes.count (.firewall name) = (connectionsOf name inventory.rules).length := by
  rw [length_connectionsOf]
  refine count_flatMap_eq fun n _ => count_flatMap_eq fun s _ => count_flatMap_eq fun host _ => ?_
  have hconnections : (host.connections.map fun c =>
      RuleSet.firewall (n.firewall.name c.direction)).count (.firewall name) =
      (host.rules n).countP fun r => decide (r.1 = name) := by
    rw [List.count_eq_countP, Host.rules, List.countP_map, List.countP_map]
    refine List.countP_congr ?_
    intro c _
    simp [n.name_eq_ruleSet]
  have hforwards : (host.forwards.sorted.map fun _ => RuleSet.nat).count (.firewall name) = 0 := by
    rw [List.count_eq_zero]
    simp
  rw [Host.takes, List.count_append, hconnections, hforwards, Nat.add_zero]

/-- Address translation gets as many as there are forwarded ports. -/
theorem count_takes_nat (inventory : Inventory) :
    inventory.takes.count .nat = inventory.forwards.length := by
  have hlength : inventory.forwards.length = inventory.forwards.countP fun _ => true := by simp
  rw [hlength]
  refine count_flatMap_eq fun n _ => count_flatMap_eq fun s _ => count_flatMap_eq fun host _ => ?_
  have hconnections : (host.connections.map fun c =>
      RuleSet.firewall (n.firewall.name c.direction)).count .nat = 0 := by
    rw [List.count_eq_zero]
    simp
  have hforwards : (host.forwards.sorted.map fun _ => RuleSet.nat).count .nat =
      host.forwards.pairs.countP fun _ => true := by
    simp [Forwards.sorted, List.map_const', List.length_mergeSort]
  rw [Host.takes, List.count_append, hconnections, hforwards, Nat.zero_add]

/-- The default settings have numbers for a thousand rules. -/
theorem exists_generate_of_few {inventory : Inventory} (h : inventory.Unambiguous)
    (hfew : inventory.takes.length ≤ 1000) (schema : SchemaNode) :
    ∃ run, generate schema {} inventory = .ok run := by
  rcases generate_outcome h schema {} with hok | ⟨cause, -, hexcused⟩
  · exact hok
  · exfalso
    cases hexcused with
    | @zeroStep name hstep =>
      have hten : ((Settings.mk none false {} {}).numbers name).ruleStep = 10 := by
        cases name <;> rfl
      exact absurd (hten.symm.trans hstep) (by decide)
    | @exhausted name i hi hsize =>
      have hcount := Nat.lt_of_lt_of_le hi (List.count_le_length.trans hfew)
      have hstart : (Settings.mk none false {} {}).ruleNumber name i ≤ 1000 + i * 10 := by
        cases name with
        | firewall name => exact Nat.le_refl _
        | nat => exact Nat.add_le_add_right (by decide : 100 ≤ 1000) _
      have hlast := hsize.trans hstart
      simp only [UInt32.size] at hlast
      omega

/-! ## 5. The strict policy -/

/-- **Under the strict policy a run with an unambiguous inventory stops for want of rule numbers
only, and it succeeds when the numbers of all rules have 32 bits.** -/
theorem strict_accepts_unambiguous {inventory : Inventory} (h : inventory.Unambiguous)
    (schema : SchemaNode) (settings : Settings) :
    (∀ cause, generate schema settings.strict inventory = .error cause →
      ∃ name, cause = .counter (.zeroStep name) ∨ cause = .counter (.exhausted name)) ∧
    (settings.firewall.ruleStep ≠ 0 → settings.nat.ruleStep ≠ 0 →
      (∀ name, ∀ i < (connectionsOf name inventory.rules).length,
        settings.firewall.ruleStart.toNat + i * settings.firewall.ruleStep.toNat < 2 ^ 32) →
      (∀ i < inventory.forwards.length,
        settings.nat.ruleStart.toNat + i * settings.nat.ruleStep.toNat < 2 ^ 32) →
      ∃ run, generate schema settings.strict inventory = .ok run) := by
  rcases generate_outcome h schema settings.strict with ⟨run, hrun⟩ | ⟨cause, hrun, hexcused⟩
  · refine ⟨?_, fun _ _ _ _ => ⟨run, hrun⟩⟩
    intro cause hcause
    cases hrun.symm.trans hcause
  · constructor
    · intro cause' hcause
      obtain rfl := Except.error.inj (hrun.symm.trans hcause)
      cases hexcused with
      | zeroStep => exact ⟨_, .inl rfl⟩
      | exhausted => exact ⟨_, .inr rfl⟩
    · intro hfirewall hnat hconnections hforwards
      exfalso
      cases hexcused with
      | @zeroStep name hstep =>
        cases name with
        | firewall => exact hfirewall hstep
        | nat => exact hnat hstep
      | @exhausted name i hi hsize =>
        cases name with
        | firewall name =>
          rw [count_takes_firewall] at hi
          exact absurd (hconnections name i hi) (Nat.not_lt.mpr hsize)
        | nat =>
          rw [count_takes_nat] at hi
          exact absurd (hforwards i hi) (Nat.not_lt.mpr hsize)

/-- Two networks share a rule set and its default action, and the addresses of two subnets differ in
the length only. -/
theorem strict_accepts_shared :
    let ssh : Connection :=
      { direction := .inbound, allow := true, source := some { address := some "10.0.0.7" } }
    let lan : Network :=
      { name := "LAN", interface := "eth1", firewall := ⟨"EDGE", "EDGE", "SELF", some "drop"⟩,
        subnets := [
          { cidr := "10.1.0.0/24", router := "10.1.0.1", dnsServers := ["10.1.0.1"],
            hosts := [{ name := "a", ipAddress := "10.1.0.2", connections := [ssh, ssh] }] },
          { cidr := "10.1.0.0", router := "10.1.0.1" }] }
    let server : Host :=
      { name := "a", ipAddress := "10.1.0.2", connections := [ssh],
        forwards := .ofList [(80, 8080), (22, 22)] }
    let wifi : Network :=
      { name := "WIFI", interface := "eth2", firewall := ⟨"EDGE", "OUT", "SELF", some "drop"⟩,
        subnets := [{ cidr := "10.1.0.0/24", router := "10.1.0.1", hosts := [server] }] }
    let inventory : Inventory :=
      { portGroups := [{ name := "web", ports := [.integer 80, .integer 443] }],
        networks := [lan, wifi] }
    inventory.Unambiguous ∧
      ∃ run, generate default (Settings.strict {}) inventory = .ok run := by
  intro ssh lan server wifi inventory
  have hplain : Plain "10.1.0.0" := by decide
  have hdigits : ∀ c ∈ "24".toList, c.isDigit = true := List.all_eq_true.mp (by decide)
  have hsized : CidrPieces "10.1.0.0/24" ["10.1.0.0", "24"] := CidrPieces.sized hplain hdigits
  have hunambiguous : inventory.Unambiguous := {
    settings := rfl
    networks_extra := by simp [inventory, lan, wifi, server]
    subnets_extra := by simp [inventory, lan, wifi, server]
    hosts_extra := by simp [inventory, lan, wifi, server]
    portGroups := by decide
    interfaces := by decide
    sites := by decide
    hosts := by decide +kernel
    actions := by decide +kernel
    plain_portGroups := by decide
    plain_networks := by decide
    plain_ruleSets := by decide
    plain_hosts := by decide
    cidrs := by
      have haddress : CidrPieces "10.1.0.0" ["10.1.0.0"] := .address hplain
      simp only [inventory, lan, wifi, List.forall_mem_cons, List.not_mem_nil, false_imp_iff,
        implies_true, and_true]
      exact ⟨⟨⟨_, hsized⟩, _, haddress⟩, _, hsized⟩ }
  refine ⟨hunambiguous, (strict_accepts_unambiguous hunambiguous default {}).2 ?_ ?_ ?_ ?_⟩
  · decide
  · decide
  · intro name i hi
    have hle := List.countP_le_length (p := fun r => decide (r.1 = name)) (l := inventory.rules)
    rw [← length_connectionsOf] at hle
    have hall : inventory.rules.length = 3 := by decide
    change 1000 + i * 10 < 2 ^ 32
    omega
  · intro i hi
    have hall : inventory.forwards.length = 2 := by decide
    change 100 + i * 10 < 2 ^ 32
    omega

end Generation

end RouterConfig
