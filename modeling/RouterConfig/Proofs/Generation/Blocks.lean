/-
RouterConfig.Proofs.Generation.Blocks — what a run sets below one stem.

A run puts the values of a port group, a rule, a host, a subnet or an
interface one after the other. Each such block sets values below one stem
(`sets_putRule`, `sets_putSubnetOptions` and so on), at words of which none
occurs twice. Hosts, subnets and networks are made of blocks.
-/
import RouterConfig.Proofs.Generation.Footprint
import RouterConfig.Proofs.Generation.Rules

namespace RouterConfig

namespace Generation

open Definitions

variable {settings : Settings} {actions : String → String}

/-! ## 1. Port groups and rules -/

/-- A port group sets values below its own stem. -/
theorem sets_putPortGroup {g : PortGroup} (hname : Plain g.name) :
    Sets actions {s | s.stem = .portGroup g.name} (putPortGroup g) := by
  have hpieces : (Stem.portGroup g.name).Pieces _ := .portGroup hname
  refine Fills.below ((Fills.putAll (w := ["port"]) hpieces rfl ?_ rfl _).bind
    (fun _ => Fills.putIfSome (w := ["description"]) hpieces rfl ?_ rfl _) (by decide))
  all_goals simp [Stem.leaves]

/-- The words below a rule for one end of a connection. -/
def endpointWords (word : String) : List (List String) :=
  [[word, "address"], [word, "port"], [word, "group", "port-group"]]

/-- An end of a connection fills the spots of its side below the rule. -/
theorem fills_putEndpoint {name number : String} (hname : Plain name) (hnumber : Plain number)
    {rule : ConfigPath} (hrule : rule.literal = (Stem.rule (.firewall name) number).literal)
    {word : String}
    (hword : ∀ w ∈ endpointWords word, w ∈ (Stem.rule (.firewall name) number).leaves)
    (e : Option Endpoint) : Fills actions (.rule (.firewall name) number) (endpointWords word)
      (putEndpoint rule word e) := by
  have hpieces : (Stem.rule (.firewall name) number).Pieces _ := .firewallRule hname hnumber
  cases e with
  | none => exact .pure ()
  | some e =>
    refine (Fills.putIfSome hpieces rfl (hword [word, "address"] ?_) ?_ _).bind (fun _ =>
      (Fills.putIfSome hpieces rfl (hword [word, "port"] ?_) ?_ _).bind (fun _ =>
        Fills.putIfSome hpieces rfl (hword [word, "group", "port-group"] ?_) ?_ _) ?_) ?_
    all_goals simp [endpointWords, hrule]

/-- A connection sets values below the rule of its number, which is below the rule set. -/
theorem sets_putRule {name : String} (hname : Plain name) (number : UInt32) (c : Connection) :
    Sets actions {s | s.stem = .rule (.firewall name) (Text.ofNat number.toNat)}
      (putRule (rulePath name number) c) := by
  have hnumber : Plain (Text.ofNat number.toNat) := Text.slash_not_mem_ofNat _
  have hpieces : (Stem.rule (.firewall name) (Text.ofNat number.toNat)).Pieces _ :=
    .firewallRule hname hnumber
  refine Fills.below
    ((Fills.put (w := ["action"]) hpieces rfl ?_ rfl _).bind (fun _ =>
    (Fills.put (w := ["protocol"]) hpieces rfl ?_ rfl _).bind (fun _ =>
    (Fills.put (w := ["log"]) hpieces rfl ?_ rfl _).bind (fun _ =>
    (Fills.putIfSome (w := ["description"]) hpieces rfl ?_ rfl _).bind (fun _ =>
    (fills_putEndpoint hname hnumber rfl ?_ _).bind (fun _ =>
    fills_putEndpoint hname hnumber rfl ?_ _)
    (by decide)) (by decide)) (by decide)) (by decide)) (by decide))
  all_goals simp [Stem.leaves, endpointWords]

/-- What a forwarded port puts once it has its number. -/
def putTranslation (settings : Settings) (h : Host) (forward : UInt16 × UInt16)
    (rule : ConfigPath) : Run Unit := do
  let outside := Text.ofNat forward.1.toNat
  let inside := Text.ofNat forward.2.toNat
  put (rule.words ["description"]) (h.name ++ " port " ++ outside ++ " to " ++ inside)
  put (rule.words ["inbound-interface"]) settings.nat.inboundInterface
  put (rule.words ["protocol"]) "tcp_udp"
  put (rule.words ["destination", "port"]) outside
  put (rule.words ["translation", "address"]) h.ipAddress
  put (rule.words ["translation", "port"]) inside

/-- A forwarded port sets values below the rule of its number. -/
theorem sets_putTranslation (h : Host) (forward : UInt16 × UInt16) (number : UInt32) :
    Sets actions {s | s.stem = .rule .nat (Text.ofNat number.toNat)}
      (putTranslation settings h forward (natRulePath number)) := by
  have hpieces : (Stem.rule .nat (Text.ofNat number.toNat)).Pieces _ :=
    .natRule (Text.slash_not_mem_ofNat _)
  refine Fills.below
    ((Fills.put (w := ["description"]) hpieces rfl ?_ rfl _).bind (fun _ =>
    (Fills.put (w := ["inbound-interface"]) hpieces rfl ?_ rfl _).bind (fun _ =>
    (Fills.put (w := ["protocol"]) hpieces rfl ?_ rfl _).bind (fun _ =>
    (Fills.put (w := ["destination", "port"]) hpieces rfl ?_ rfl _).bind (fun _ =>
    (Fills.put (w := ["translation", "address"]) hpieces rfl ?_ rfl _).bind (fun _ =>
    Fills.put (w := ["translation", "port"]) hpieces rfl ?_ rfl _)
    (by decide)) (by decide)) (by decide)) (by decide)) (by decide))
  all_goals simp [Stem.leaves]

/-! ## 2. Hosts, subnets and interfaces -/

/-- The address mapping of a host. -/
def putMapping (mapping : ConfigPath) (h : Host) : Run Unit := do
  put (mapping.words ["ip-address"]) h.ipAddress
  putIfSome (mapping.words ["mac-address"]) h.macAddress
  putTemplate mapping h.extra

theorem putHost_eq (settings : Settings) (network : Network) (subnet : ConfigPath) (h : Host) :
    putHost settings network subnet h = (do
      putMapping (subnet.append [.fixed "static-mapping", .value h.name]) h
      forEach h.connections fun c => putConnection (network.firewall.name c.direction) c
      putForwards settings h) := by
  simp only [putHost, putMapping, bind_assoc]

/-- A subnet without its hosts. -/
def putSubnetOptions (base : ConfigPath) (s : Subnet) : Run Unit := do
  discard (edit (Definitions.ensure base))
  put (base.words ["default-router"]) s.router
  putAny (base.words ["dns-server"]) s.dnsServers
  putIfSome (base.words ["domain-name"]) s.domainName
  putIfSome (base.words ["lease"]) (s.lease.map fun n => Text.ofNat n.toNat)
  putRange base s.range
  putTemplate base s.extra

theorem putSubnet_eq (settings : Settings) (network : Network) (s : Subnet) :
    putSubnet settings network s = (do
      putSubnetOptions (subnetPath network s) s
      forEach s.hosts (putHost settings network (subnetPath network s))) := by
  simp only [putSubnet, putSubnetOptions, bind_assoc]

/-- An interface with its rule sets. -/
def putInterface (interface : ConfigPath) (network : Network) : Run Unit := do
  discard (edit (Definitions.ensure interface))
  putIfSome (interface.words ["description"]) network.description
  putAny (interface.words ["address"]) (network.subnets.map Subnet.interfaceAddress)
  forEach network.firewall.all (attachRuleSet interface)
  putTemplate interface network.extra

theorem putNetwork_eq (settings : Settings) (network : Network) :
    putNetwork settings network = (do
      forEach network.firewall.all fun entry => ensureCounter settings entry.2
      putInterface (.ofSegments
        [.fixed "interfaces", .fixed "ethernet", .value network.interface]) network
      putDefaultAction network.firewall
      forEach network.subnets (putSubnet settings network)) := by
  simp only [putNetwork, putInterface, bind_assoc]

section Site

variable {network : Network} {s : Subnet} {pieces : List String} (hnetwork : Plain network.name)
  (hcidr : CidrPieces s.cidr pieces)
include hnetwork hcidr

/-- A host without further entries sets the values of its mapping. -/
theorem sets_putMapping {h : Host} (hname : Plain h.name) (hextra : h.extra = ∅) :
    Sets actions {spot | spot.stem = .mapping network.name s.cidr h.name}
      (putMapping ((subnetPath network s).append [.fixed "static-mapping", .value h.name]) h) := by
  have hpieces : (Stem.mapping network.name s.cidr h.name).Pieces _ :=
    .mapping hnetwork hcidr hname
  rw [putMapping, hextra]
  refine Fills.below
    ((Fills.put (w := ["ip-address"]) hpieces rfl ?_ rfl _).bind (fun _ =>
    (Fills.putIfSome (w := ["mac-address"]) hpieces rfl ?_ rfl _).bind (fun _ =>
    (Fills.pure () : Fills _ _ [] _)) (by decide)) (by decide))
  all_goals simp [Stem.leaves]

theorem fills_putRange (r : Option AddressRange) :
    Fills actions (.subnet network.name s.cidr) [["range", "0", "start"], ["range", "0", "stop"]]
      (putRange (subnetPath network s) r) := by
  have hpieces : (Stem.subnet network.name s.cidr).Pieces _ := .subnet hnetwork hcidr
  cases r with
  | none => exact .pure ()
  | some r =>
    refine (Fills.put (w := ["range", "0", "start"]) hpieces rfl ?_ rfl _).bind (fun _ =>
      Fills.put (w := ["range", "0", "stop"]) hpieces rfl ?_ rfl _) (by decide)
    all_goals simp [Stem.leaves]

/-- A subnet without further entries sets the values of its options. -/
theorem sets_putSubnetOptions (hextra : s.extra = ∅) :
    Sets actions {spot | spot.stem = .subnet network.name s.cidr}
      (putSubnetOptions (subnetPath network s) s) := by
  have hpieces : (Stem.subnet network.name s.cidr).Pieces _ := .subnet hnetwork hcidr
  rw [putSubnetOptions, hextra]
  refine Fills.below
    ((Fills.ensure (w := ["default-router"]) hpieces ?_ rfl).bind (fun _ =>
    (Fills.put (w := ["default-router"]) hpieces rfl ?_ rfl _).bind (fun _ =>
    (Fills.putAny (w := ["dns-server"]) hpieces rfl ?_ rfl _).bind (fun _ =>
    (Fills.putIfSome (w := ["domain-name"]) hpieces rfl ?_ rfl _).bind (fun _ =>
    (Fills.putIfSome (w := ["lease"]) hpieces rfl ?_ rfl _).bind (fun _ =>
    (fills_putRange hnetwork hcidr _).bind (fun _ =>
    (Fills.pure () : Fills _ _ [] _))
    (by decide)) (by decide)) (by decide)) (by decide)) (by decide)) (by decide))
  all_goals simp [Stem.leaves]

end Site

/-- An interface without further entries sets its own values, one address for each subnet. -/
theorem sets_putInterface {network : Network} (hname : Plain network.interface)
    (hextra : network.extra = ∅) :
    Sets actions {spot | spot.stem = .interface network.interface} (putInterface (.ofSegments
      [.fixed "interfaces", .fixed "ethernet", .value network.interface]) network) := by
  have hpieces : (Stem.interface network.interface).Pieces _ := .interface hname
  rw [putInterface, hextra]
  -- the three directions, one after the other
  have hattach : Fills actions (.interface network.interface)
      [["firewall", "in", "name"], ["firewall", "out", "name"], ["firewall", "local", "name"]]
      (forEach network.firewall.all (attachRuleSet (.ofSegments
        [.fixed "interfaces", .fixed "ethernet", .value network.interface]))) := by
    refine (Fills.put (w := ["firewall", "in", "name"]) hpieces rfl ?_ rfl _).bind (fun _ =>
      (Fills.put (w := ["firewall", "out", "name"]) hpieces rfl ?_ rfl _).bind (fun _ =>
      (Fills.put (w := ["firewall", "local", "name"]) hpieces rfl ?_ rfl _).bind (fun _ =>
      (Fills.pure () : Fills _ _ [] _)) (by decide)) (by decide)) (by decide)
    all_goals simp [Stem.leaves]
  refine Fills.below
    ((Fills.ensure (w := ["description"]) hpieces ?_ rfl).bind (fun _ =>
    (Fills.putIfSome (w := ["description"]) hpieces rfl ?_ rfl _).bind (fun _ =>
    (Fills.putAny (w := ["address"]) hpieces rfl ?_ rfl _).bind (fun _ =>
    hattach.bind (fun _ =>
    (Fills.pure () : Fills _ _ [] _))
    (by decide)) (by decide)) (by decide)) (by decide))
  all_goals simp [Stem.leaves]

/-- The default actions of rule sets are the same whoever puts them. -/
theorem sets_putDefaultAction {names : RuleSetNames}
    (hnames : ∀ entry ∈ names.all, Plain entry.2)
    (hactions : ∀ entry ∈ names.all, ∀ action, names.defaultAction = some action →
      actions entry.2 = action) :
    Sets actions ∅ (putDefaultAction names) := by
  unfold putDefaultAction
  split
  · exact .pure ()
  · rename_i action haction
    have hshared : ∀ entry ∈ names.all, Sets actions ∅
        (putShared ((ruleSetPath entry.2).words ["default-action"]) action) := by
      intro entry hentry
      rw [← hactions entry hentry action haction]
      exact .putShared (hnames entry hentry) rfl
    refine (Sets.forEach hshared ?_).mono ?_
    · exact List.pairwise_of_forall fun _ _ => Set.disjoint_empty _
    · rintro spot ⟨-, -, hspot⟩
      exact hspot

end Generation

end RouterConfig
