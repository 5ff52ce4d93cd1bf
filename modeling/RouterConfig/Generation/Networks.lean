/-
RouterConfig.Generation.Networks — the configuration of port groups,
networks, their subnets and their hosts.
-/
import RouterConfig.Generation.Rules

namespace RouterConfig.Generation

/-! ## 1. Port groups -/

/-- A port group with its ports in the order of the inventory. -/
def putPortGroup (g : PortGroup) : Run Unit := do
  let base : ConfigPath :=
    .ofSegments [.fixed "firewall", .fixed "group", .fixed "port-group", .value g.name]
  putAll (base.words ["port"]) (g.ports.map Scalar.render)
  putIfSome (base.words ["description"]) g.description

/-! ## 2. Hosts -/

/-- A host: its address mapping below the subnet, a rule for each connection, and one for each
forwarded port. -/
def putHost (settings : Settings) (network : Network) (subnet : ConfigPath) (h : Host) :
    Run Unit := do
  let mapping := subnet.append [.fixed "static-mapping", .value h.name]
  put (mapping.words ["ip-address"]) h.ipAddress
  putIfSome (mapping.words ["mac-address"]) h.macAddress
  putTemplate mapping h.extra
  forEach h.connections fun c => putConnection (network.firewall.name c.direction) c
  putForwards settings h

/-! ## 3. Subnets -/

/-- The path of a subnet. -/
def subnetPath (network : Network) (s : Subnet) : ConfigPath :=
  .ofSegments [.fixed "service", .fixed "dhcp-server", .fixed "shared-network-name",
    .value network.name, .fixed "subnet", .value s.cidr]

/-- A range of addresses to lease. -/
def putRange (base : ConfigPath) : Option AddressRange → Run Unit
  | none => return ()
  | some r => do
    let range := base.append [.fixed "range", .value "0"]
    put (range.words ["start"]) r.start
    put (range.words ["stop"]) r.stop

/-- A subnet and its hosts. -/
def putSubnet (settings : Settings) (network : Network) (s : Subnet) : Run Unit := do
  let base := subnetPath network s
  discard (edit (Definitions.ensure base))
  put (base.words ["default-router"]) s.router
  putAny (base.words ["dns-server"]) s.dnsServers
  putIfSome (base.words ["domain-name"]) s.domainName
  putIfSome (base.words ["lease"]) (s.lease.map fun n => Text.ofNat n.toNat)
  putRange base s.range
  putTemplate base s.extra
  forEach s.hosts (putHost settings network base)

/-! ## 4. Networks -/

/-- Gives a rule set its sequence of numbers, unless another network has done so. -/
def ensureCounter (settings : Settings) (name : String) : Run Unit :=
  discard (count
    (RuleCounters.make (.firewall name) settings.firewall.ruleStart settings.firewall.ruleStep))

/-- Attaches a rule set to an interface for one direction. -/
def attachRuleSet (interface : ConfigPath) (entry : Direction × String) : Run Unit :=
  put (interface.words ["firewall", entry.1.keyword, "name"]) entry.2

/-- What the rule sets of a network do with connections without a rule, if it says so. -/
def putDefaultAction (names : RuleSetNames) : Run Unit :=
  match names.defaultAction with
  | none => return ()
  | some action => forEach names.all fun entry =>
    putShared ((ruleSetPath entry.2).words ["default-action"]) action

/-- A network: its interface, its rule sets and its subnets. -/
def putNetwork (settings : Settings) (network : Network) : Run Unit := do
  forEach network.firewall.all fun entry => ensureCounter settings entry.2
  let interface : ConfigPath :=
    .ofSegments [.fixed "interfaces", .fixed "ethernet", .value network.interface]
  discard (edit (Definitions.ensure interface))
  putIfSome (interface.words ["description"]) network.description
  putAny (interface.words ["address"]) (network.subnets.map Subnet.interfaceAddress)
  forEach network.firewall.all (attachRuleSet interface)
  putTemplate interface network.extra
  putDefaultAction network.firewall
  forEach network.subnets (putSubnet settings network)

/-! ## 5. Whole runs -/

/-- An inventory: the sequence of address translation first, then the settings, the port groups and
the networks. -/
def putInventory (settings : Settings) (inventory : Inventory) : Run Unit := do
  discard (count (RuleCounters.make .nat settings.nat.ruleStart settings.nat.ruleStep))
  putTemplate .root inventory.settings
  forEach inventory.portGroups putPortGroup
  forEach inventory.networks (putNetwork settings)

/-- The run before its first step. -/
def start (schema : SchemaNode) (settings : Settings) : Generation where
  tree := .new schema settings.policy
  counters := {}

/-- What an inventory gives with a grammar and settings. -/
def generate (schema : SchemaNode) (settings : Settings) (inventory : Inventory) :
    Except GenerationError Generation :=
  match putInventory settings inventory (start schema settings) with
  | .ok () run => .ok run
  | .error cause _ => .error cause

end RouterConfig.Generation
