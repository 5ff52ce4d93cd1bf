/-
RouterConfig.Inventory.Json — inventories as JSON values, both ways.

Writing gives every field, `null` where there is nothing. Reading wants the
fields without a default, ignores the ones it does not know, and refuses a
value of the wrong kind wherever it stands.
-/
import RouterConfig.Inventory.Basic
import RouterConfig.Json.Record

namespace RouterConfig

/-! ## 1. Templates -/

/-- A scalar as JSON. -/
def Scalar.toJson : Scalar → Json
  | .text s => .string s
  | .integer n => .integer n.toInt
  | .flag b => .bool b

/-- A scalar from JSON: a text, a whole number of 64 bits, or a truth value. -/
def Scalar.ofJson? : Json → Option Scalar
  | .string s => some (.text s)
  | .integer n => (Text.int64OfInt? n).map .integer
  | .bool b => some (.flag b)
  | _ => none

namespace Template

mutual

/-- What stands under a name, as JSON. -/
def valueJson : TemplateValue → Json
  | .scalar s => s.toJson
  | .list items => .array (items.map Scalar.toJson)
  | .node entries => .object (fieldsJson entries)
  | .presence => .null

/-- The entries of a template as the fields of an object. -/
def fieldsJson : TemplateEntries → List (String × Json)
  | [] => []
  | (name, value) :: rest => (name, valueJson value) :: fieldsJson rest

end

/-- A template as JSON. -/
def toJson (template : Template) : Json := .object (fieldsJson template.entries)

mutual

/-- What stands under a name, from JSON. -/
def valueOfJson? : Json → Option TemplateValue
  | .null => some .presence
  | .array items => (items.mapM Scalar.ofJson?).map .list
  | .object fields => (entriesOfJson? fields).map .node
  | .bool b => some (.scalar (.flag b))
  | .integer n => (Text.int64OfInt? n).map fun n => .scalar (.integer n)
  | .string s => some (.scalar (.text s))
  | .decimal _ => none

/-- Entries from the fields of an object. -/
def entriesOfJson? : List (String × Json) → Option (List (String × TemplateValue))
  | [] => some []
  | (name, json) :: rest => do
    let value ← valueOfJson? json
    let entries ← entriesOfJson? rest
    some ((name, value) :: entries)

end

/-- A template from JSON. -/
def ofJson? : Json → Option Template
  | .object fields => (entriesOfJson? fields).map ofEntries
  | _ => none

end Template

/-! ## 2. Hosts -/

/-- A direction from JSON: its word, alone or as the one field of an object without content. -/
def Direction.ofJson? : Json → Option Direction
  | .string s => ofLabel? s
  | .object [(word, .null)] => ofLabel? word
  | _ => none

/-- One end of a connection as JSON. -/
def Endpoint.toJson (e : Endpoint) : Json :=
  .object [("address", Json.optional .string e.address),
    ("port", Json.optional Scalar.toJson e.port),
    ("port_group", Json.optional .string e.portGroup)]

/-- One end of a connection from JSON. -/
def Endpoint.ofJson? (json : Json) : Option Endpoint := do
  let record ← json.asRecord? ["address", "port", "port_group"]
  let address ← Json.defaulted record "address" none (Json.asOption? Json.asString?)
  let port ← Json.defaulted record "port" none (Json.asOption? Scalar.ofJson?)
  let portGroup ← Json.defaulted record "port_group" none (Json.asOption? Json.asString?)
  some { address, port, portGroup }

/-- A connection as JSON. -/
def Connection.toJson (c : Connection) : Json :=
  .object [("direction", .string c.direction.label), ("allow", .bool c.allow),
    ("protocol", .string c.protocol), ("log", .bool c.log),
    ("description", Json.optional .string c.description),
    ("source", Json.optional Endpoint.toJson c.source),
    ("destination", Json.optional Endpoint.toJson c.destination)]

/-- A connection from JSON. -/
def Connection.ofJson? (json : Json) : Option Connection := do
  let record ← json.asRecord?
    ["direction", "allow", "protocol", "log", "description", "source", "destination"]
  let direction ← Json.required record "direction" Direction.ofJson?
  let allow ← Json.required record "allow" Json.asBool?
  let protocol ← Json.defaulted record "protocol" "all" Json.asString?
  let log ← Json.defaulted record "log" false Json.asBool?
  let description ← Json.defaulted record "description" none (Json.asOption? Json.asString?)
  let source ← Json.defaulted record "source" none (Json.asOption? Endpoint.ofJson?)
  let destination ← Json.defaulted record "destination" none (Json.asOption? Endpoint.ofJson?)
  some { direction, allow, protocol, log, description, source, destination }

namespace Host

/-- A port as the name of a field: decimal digits without a leading zero. -/
def portOfName? (name : String) : Option UInt16 :=
  let cs := name.toList
  if cs.head? == some '0' && cs.length ≠ 1 then none
  else ((Text.readDigits cs).filter (· < UInt16.size)).map UInt16.ofNat

/-- A forwarded port from a field. -/
def forwardOfField? (field : String × Json) : Option (UInt16 × UInt16) := do
  let outside ← portOfName? field.1
  let inside ← field.2.asUInt16?
  some (outside, inside)

/-- Forwarded ports from JSON. -/
def forwardsOfJson? : Json → Option Forwards
  | .object fields => (fields.mapM forwardOfField?).map Forwards.ofList
  | _ => none

/-- A host as JSON. -/
def toJson (h : Host) : Json :=
  .object [("name", .string h.name), ("ip_address", .string h.ipAddress),
    ("mac_address", Json.optional .string h.macAddress),
    ("connections", .array (h.connections.map Connection.toJson)),
    ("forwards", .object (h.forwards.pairs.map fun (outside, inside) =>
      (Text.ofNat outside.toNat, .integer inside.toNat))),
    ("extra", Template.toJson h.extra)]

/-- A host from JSON. -/
def ofJson? (json : Json) : Option Host := do
  let record ← json.asRecord?
    ["name", "ip_address", "mac_address", "connections", "forwards", "extra"]
  let name ← Json.required record "name" Json.asString?
  let ipAddress ← Json.required record "ip_address" Json.asString?
  let macAddress ← Json.defaulted record "mac_address" none (Json.asOption? Json.asString?)
  let connections ← Json.defaulted record "connections" [] (Json.asList? Connection.ofJson?)
  let forwards ← Json.defaulted record "forwards" ∅ forwardsOfJson?
  let extra ← Json.defaulted record "extra" ∅ Template.ofJson?
  some { name, ipAddress, macAddress, connections, forwards, extra }

end Host

/-! ## 3. Networks -/

/-- A range of addresses as JSON. -/
def AddressRange.toJson (r : AddressRange) : Json :=
  .object [("start", .string r.start), ("stop", .string r.stop)]

/-- A range of addresses from JSON. -/
def AddressRange.ofJson? (json : Json) : Option AddressRange := do
  let record ← json.asRecord? ["start", "stop"]
  let start ← Json.required record "start" Json.asString?
  let stop ← Json.required record "stop" Json.asString?
  some { start, stop }

/-- A subnet as JSON. -/
def Subnet.toJson (s : Subnet) : Json :=
  .object [("cidr", .string s.cidr), ("router", .string s.router),
    ("dns_servers", .strings s.dnsServers),
    ("domain_name", Json.optional .string s.domainName),
    ("lease", Json.optional (fun n => .integer n.toNat) s.lease),
    ("range", Json.optional AddressRange.toJson s.range),
    ("hosts", .array (s.hosts.map Host.toJson)),
    ("extra", Template.toJson s.extra)]

/-- A subnet from JSON. -/
def Subnet.ofJson? (json : Json) : Option Subnet := do
  let record ← json.asRecord?
    ["cidr", "router", "dns_servers", "domain_name", "lease", "range", "hosts", "extra"]
  let cidr ← Json.required record "cidr" Json.asString?
  let router ← Json.required record "router" Json.asString?
  let dnsServers ← Json.defaulted record "dns_servers" [] (Json.asList? Json.asString?)
  let domainName ← Json.defaulted record "domain_name" none (Json.asOption? Json.asString?)
  let lease ← Json.defaulted record "lease" none (Json.asOption? Json.asUInt32?)
  let range ← Json.defaulted record "range" none (Json.asOption? AddressRange.ofJson?)
  let hosts ← Json.defaulted record "hosts" [] (Json.asList? Host.ofJson?)
  let extra ← Json.defaulted record "extra" ∅ Template.ofJson?
  some { cidr, router, dnsServers, domainName, lease, range, hosts, extra }

/-- The rule sets of a network as JSON. -/
def RuleSetNames.toJson (n : RuleSetNames) : Json :=
  .object [("inbound", .string n.inbound), ("outbound", .string n.outbound),
    ("local", .string n.router), ("default_action", Json.optional .string n.defaultAction)]

/-- The rule sets of a network from JSON. -/
def RuleSetNames.ofJson? (json : Json) : Option RuleSetNames := do
  let record ← json.asRecord? ["inbound", "outbound", "local", "default_action"]
  let inbound ← Json.required record "inbound" Json.asString?
  let outbound ← Json.required record "outbound" Json.asString?
  let router ← Json.required record "local" Json.asString?
  let defaultAction ← Json.defaulted record "default_action" none (Json.asOption? Json.asString?)
  some { inbound, outbound, router, defaultAction }

/-- A network as JSON. -/
def Network.toJson (n : Network) : Json :=
  .object [("name", .string n.name), ("interface", .string n.interface),
    ("description", Json.optional .string n.description), ("firewall", n.firewall.toJson),
    ("subnets", .array (n.subnets.map Subnet.toJson)), ("extra", Template.toJson n.extra)]

/-- A network from JSON. -/
def Network.ofJson? (json : Json) : Option Network := do
  let record ← json.asRecord?
    ["name", "interface", "description", "firewall", "subnets", "extra"]
  let name ← Json.required record "name" Json.asString?
  let interface ← Json.required record "interface" Json.asString?
  let description ← Json.defaulted record "description" none (Json.asOption? Json.asString?)
  let firewall ← Json.required record "firewall" RuleSetNames.ofJson?
  let subnets ← Json.defaulted record "subnets" [] (Json.asList? Subnet.ofJson?)
  let extra ← Json.defaulted record "extra" ∅ Template.ofJson?
  some { name, interface, description, firewall, subnets, extra }

/-- A port group as JSON. -/
def PortGroup.toJson (g : PortGroup) : Json :=
  .object [("name", .string g.name), ("description", Json.optional .string g.description),
    ("ports", .array (g.ports.map Scalar.toJson))]

/-- A port group from JSON. -/
def PortGroup.ofJson? (json : Json) : Option PortGroup := do
  let record ← json.asRecord? ["name", "description", "ports"]
  let name ← Json.required record "name" Json.asString?
  let description ← Json.defaulted record "description" none (Json.asOption? Json.asString?)
  let ports ← Json.required record "ports" (Json.asList? Scalar.ofJson?)
  some { name, description, ports }

/-- An inventory as JSON. -/
def Inventory.toJson (i : Inventory) : Json :=
  .object [("settings", Template.toJson i.settings),
    ("port_groups", .array (i.portGroups.map PortGroup.toJson)),
    ("networks", .array (i.networks.map Network.toJson))]

/-- An inventory from JSON. -/
def Inventory.ofJson? (json : Json) : Option Inventory := do
  let record ← json.asRecord? ["settings", "port_groups", "networks"]
  let settings ← Json.defaulted record "settings" ∅ Template.ofJson?
  let portGroups ← Json.defaulted record "port_groups" [] (Json.asList? PortGroup.ofJson?)
  let networks ← Json.defaulted record "networks" [] (Json.asList? Network.ofJson?)
  some { settings, portGroups, networks }

end RouterConfig
