/-
RouterConfig.Inventory.Basic — networks as an operator describes them.

An inventory says what the networks behind a router should look like: their
interfaces, subnets and hosts, which connections a host makes or accepts,
and which ports are forwarded to it. It names no configuration path.
-/
import RouterConfig.Template
import RouterConfig.Text.Basic

namespace RouterConfig

/-! ## 1. Directions -/

/-- The way that traffic takes through an interface. -/
inductive Direction where
  | inbound
  | outbound
  /-- To the router itself. -/
  | router
  deriving DecidableEq, Inhabited, Repr

namespace Direction

/-- All directions, in the order in which they are attached. -/
def all : List Direction := [.inbound, .outbound, .router]

/-- The direction in words. -/
def label : Direction → String
  | .inbound => "inbound"
  | .outbound => "outbound"
  | .router => "local"

/-- The word under which a rule set is attached to an interface. -/
def keyword : Direction → String
  | .inbound => "in"
  | .outbound => "out"
  | .router => "local"

/-- The direction of a word. -/
def ofLabel? (word : String) : Option Direction := all.find? fun d => d.label == word

end Direction

/-! ## 2. Hosts -/

/-- What a rule demands of one end of a connection. -/
structure Endpoint where
  address : Option String := none
  port : Option Scalar := none
  /-- A port group that stands in place of a port. -/
  portGroup : Option String := none
  deriving DecidableEq, Inhabited, Repr

/-- Whether nothing is demanded. -/
def Endpoint.isEmpty (e : Endpoint) : Bool :=
  e.address.isNone && e.port.isNone && e.portGroup.isNone

/-- A connection of a host that the firewall lets through or drops. -/
structure Connection where
  direction : Direction
  allow : Bool
  protocol : String := "all"
  log : Bool := false
  description : Option String := none
  source : Option Endpoint := none
  destination : Option Endpoint := none
  deriving DecidableEq, Inhabited, Repr

namespace Connection

/-- The word for what happens to the connection. -/
def action (c : Connection) : String := if c.allow then "accept" else "drop"

/-- The word for whether the connection is logged. -/
def logValue (c : Connection) : String := if c.log then "enable" else "disable"

end Connection

/-- Ports that are forwarded to a host: each outside port with the port of the host. -/
structure Forwards where
  pairs : List (UInt16 × UInt16)
  /-- No outside port occurs twice. -/
  distinct : (pairs.map (·.1)).Nodup
  deriving DecidableEq, Repr

namespace Forwards

instance : EmptyCollection Forwards := ⟨⟨[], .nil⟩⟩

instance : Inhabited Forwards := ⟨∅⟩

/-- The pairs with one more, in place of another one for the same outside port. -/
def put (outside inside : UInt16) : List (UInt16 × UInt16) → List (UInt16 × UInt16)
  | [] => [(outside, inside)]
  | (o, i) :: rest => if o = outside then (outside, inside) :: rest else (o, i) :: put outside inside rest

theorem mem_put {outside inside port : UInt16} {pairs : List (UInt16 × UInt16)}
    (h : port ∈ (put outside inside pairs).map (·.1)) :
    port = outside ∨ port ∈ pairs.map (·.1) := by
  induction pairs with
  | nil => simpa [put] using h
  | cons head rest ih =>
    simp only [put] at h
    split at h <;> simp only [List.map_cons, List.mem_cons] at h ⊢
    · exact h.imp_right .inr
    · rcases h with h | h
      · exact .inr (.inl h)
      · exact (ih h).imp_right .inr

theorem distinct_put (outside inside : UInt16) {pairs : List (UInt16 × UInt16)}
    (h : (pairs.map (·.1)).Nodup) : ((put outside inside pairs).map (·.1)).Nodup := by
  induction pairs with
  | nil => simp [put]
  | cons head rest ih =>
    obtain ⟨hnot, hrest⟩ := List.nodup_cons.mp h
    simp only [put]
    split
    case isTrue heq => exact List.nodup_cons.mpr ⟨heq ▸ hnot, hrest⟩
    case isFalse hne =>
      refine List.nodup_cons.mpr ⟨?_, ih hrest⟩
      intro hmem
      rcases mem_put hmem with h | h
      · exact hne h
      · exact hnot h

/-- The forwarded ports with one more, in place of another one for the same outside port. -/
def insert (forwards : Forwards) (outside inside : UInt16) : Forwards :=
  ⟨put outside inside forwards.pairs, distinct_put outside inside forwards.distinct⟩

/-- The forwarded ports of these pairs; of two with one outside port the later counts. -/
def ofList (pairs : List (UInt16 × UInt16)) : Forwards :=
  pairs.foldl (fun forwards pair => forwards.insert pair.1 pair.2) ∅

/-- The pairs in ascending order of the outside port. -/
def sorted (forwards : Forwards) : List (UInt16 × UInt16) :=
  forwards.pairs.mergeSort fun a b => a.1 ≤ b.1

end Forwards

/-- A host with a fixed address. -/
structure Host where
  name : String
  ipAddress : String
  macAddress : Option String := none
  connections : List Connection := []
  forwards : Forwards := ∅
  /-- Further settings of the host's address mapping. -/
  extra : Template := ∅
  deriving Inhabited, Repr

/-! ## 3. Networks -/

/-- A range of addresses to lease. -/
structure AddressRange where
  start : String
  stop : String
  deriving DecidableEq, Inhabited, Repr

/-- A subnet of a network. -/
structure Subnet where
  /-- The network address with its length. -/
  cidr : String
  /-- The address of the router in the subnet. -/
  router : String
  dnsServers : List String := []
  domainName : Option String := none
  /-- How long an address is leased, in seconds. -/
  lease : Option UInt32 := none
  range : Option AddressRange := none
  hosts : List Host := []
  /-- Further settings of the subnet. -/
  extra : Template := ∅
  deriving Inhabited, Repr

namespace Subnet

/-- The length in the network address, if it has one. -/
def networkLength? (s : Subnet) : Option String :=
  (Text.cut '/' s.cidr.toList).map fun (_, length) => String.ofList length

/-- The address of the router with the length of the network. -/
def interfaceAddress (s : Subnet) : String :=
  match s.networkLength? with
  | some length => s.router ++ "/" ++ length
  | none => s.router

end Subnet

/-- The firewall rule sets of a network. -/
structure RuleSetNames where
  inbound : String
  outbound : String
  router : String
  /-- What happens to connections without a rule, in all three sets. -/
  defaultAction : Option String := none
  deriving DecidableEq, Inhabited, Repr

namespace RuleSetNames

/-- The name of the rule set for a direction. -/
def name (names : RuleSetNames) : Direction → String
  | .inbound => names.inbound
  | .outbound => names.outbound
  | .router => names.router

/-- The names of all three rule sets with their directions. -/
def all (names : RuleSetNames) : List (Direction × String) :=
  Direction.all.map fun d => (d, names.name d)

end RuleSetNames

/-- A network behind an interface of the router. -/
structure Network where
  name : String
  interface : String
  description : Option String := none
  firewall : RuleSetNames
  subnets : List Subnet := []
  /-- Further settings of the interface. -/
  extra : Template := ∅
  deriving Inhabited, Repr

/-- A named group of ports. -/
structure PortGroup where
  name : String
  description : Option String := none
  ports : List Scalar
  deriving DecidableEq, Inhabited, Repr

/-- All that one inventory describes. -/
structure Inventory where
  /-- Settings at the root of the configuration. -/
  settings : Template := ∅
  portGroups : List PortGroup := []
  networks : List Network := []
  deriving Inhabited, Repr

end RouterConfig
