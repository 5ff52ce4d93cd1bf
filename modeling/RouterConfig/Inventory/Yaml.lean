/-
RouterConfig.Inventory.Yaml — inventories from YAML texts.

A field that stands for text takes any scalar as it is written. A template
asks what a scalar means: a text, a whole number of 64 bits, a truth value
or nothing at all.
-/
import RouterConfig.Inventory.Json
import RouterConfig.Yaml.Decoder

namespace RouterConfig

open Yaml (Decoder Decode Node Style Meaning)
open Yaml.Decoder

/-! ## 1. Templates -/

/-- What a scalar of a template means. Only a common tag can say what the text does not. -/
def Template.meaning (tag : Option String) (text : String) (style : Style) : Decode Meaning := do
  guard !(isLocal tag)
  match tag with
  | none => return if style == .plain then .ofPlain text else .text
  | some tag =>
    if tag == commonTag "bool" then return .flag (← Yaml.readBool? text)
    else if tag == commonTag "int" then return .integer (← Yaml.readInteger? text)
    else if tag == commonTag "float" then
      guard (Yaml.isDecimal text)
      return .decimal
    else if tag == commonTag "null" then
      guard (Yaml.isNull text)
      return .null
    else return .text

/-- The scalar of a template that has this text and this meaning. -/
def Scalar.ofMeaning? (text : String) : Meaning → Option Scalar
  | .null | .decimal => none
  | .flag b => some (.flag b)
  | .integer n => (Text.int64OfInt? n).map .integer
  | .text => some (.text text)

/-- A scalar of a template. -/
def Scalar.decoder : Decoder Scalar := fun _ node => do
  match ← resolve node with
  | .scalar tag written style => ofMeaning? written (← Template.meaning tag written style)
  | _ => failure

namespace Template

/-- A name inside a template: a scalar that means a text. -/
def nameDecoder : Decoder String := fun depth node => do
  match ← Scalar.decoder depth node with
  | .text name => return name
  | _ => failure

/-- What stands under a name of a template. -/
def valueDecoder (depth : Nat) (node : Node) : Decode TemplateValue := do
  match ← resolve node, depth with
  | .scalar tag text style, _ =>
    match ← meaning tag text style with
    | .null => return .presence
    | other => return .scalar (← Scalar.ofMeaning? text other)
  | .sequence tag items, depth + 1 =>
    guard !(isLocal tag)
    return .list (← items.mapM (Scalar.decoder depth))
  | .mapping tag entries, depth + 1 =>
    guard !(isLocal tag)
    let entries ← entries.mapM fun entry =>
      return (← nameDecoder depth entry.1, ← valueDecoder depth entry.2)
    return .node entries
  | _, _ => failure

/-- A template. Its outermost names are taken as they are written. -/
def decoder : Decoder Template := fun depth node =>
  ofEntries <$> mapping text valueDecoder depth node

end Template

/-! ## 2. Hosts -/

/-- A direction: its word, or its word as the tag of nothing. -/
def Direction.decoder : Decoder Direction := fun _ node => do
  match ← resolve node with
  | .scalar tag text style =>
    if isLocal tag then
      guard (style == .plain && (text.isEmpty || Yaml.isNull text))
      ofLabel? (String.ofList ((tag.getD "").toList.drop 1))
    else ofLabel? text
  | _ => failure

/-- One end of a connection. -/
def Endpoint.decoder : Decoder Endpoint := fun depth node => do
  let fields ← record ["address", "port", "port_group"] depth node
  return {
    address := ← fields.optional "address" text
    port := ← fields.optional "port" Scalar.decoder
    portGroup := ← fields.optional "port_group" text }

/-- A connection. -/
def Connection.decoder : Decoder Connection := fun depth node => do
  let fields ← record
    ["direction", "allow", "protocol", "log", "description", "source", "destination"] depth node
  return {
    direction := ← fields.required "direction" Direction.decoder
    allow := ← fields.required "allow" flag
    protocol := ← fields.defaulted "protocol" "all" text
    log := ← fields.defaulted "log" false flag
    description := ← fields.optional "description" text
    source := ← fields.optional "source" Endpoint.decoder
    destination := ← fields.optional "destination" Endpoint.decoder }

/-- A host. -/
def Host.decoder : Decoder Host := fun depth node => do
  let fields ← record
    ["name", "ip_address", "mac_address", "connections", "forwards", "extra"] depth node
  return {
    name := ← fields.required "name" text
    ipAddress := ← fields.required "ip_address" text
    macAddress := ← fields.optional "mac_address" text
    connections := ← fields.defaulted "connections" [] (list Connection.decoder)
    forwards := .ofList (← fields.defaulted "forwards" [] (mapping uint16 uint16))
    extra := ← fields.defaulted "extra" ∅ Template.decoder }

/-! ## 3. Networks -/

/-- A range of addresses. -/
def AddressRange.decoder : Decoder AddressRange := fun depth node => do
  let fields ← record ["start", "stop"] depth node
  return { start := ← fields.required "start" text, stop := ← fields.required "stop" text }

/-- A subnet. -/
def Subnet.decoder : Decoder Subnet := fun depth node => do
  let fields ← record
    ["cidr", "router", "dns_servers", "domain_name", "lease", "range", "hosts", "extra"] depth node
  return {
    cidr := ← fields.required "cidr" text
    router := ← fields.required "router" text
    dnsServers := ← fields.defaulted "dns_servers" [] (list text)
    domainName := ← fields.optional "domain_name" text
    lease := ← fields.optional "lease" uint32
    range := ← fields.optional "range" AddressRange.decoder
    hosts := ← fields.defaulted "hosts" [] (list Host.decoder)
    extra := ← fields.defaulted "extra" ∅ Template.decoder }

/-- The rule sets of a network. -/
def RuleSetNames.decoder : Decoder RuleSetNames := fun depth node => do
  let fields ← record ["inbound", "outbound", "local", "default_action"] depth node
  return {
    inbound := ← fields.required "inbound" text
    outbound := ← fields.required "outbound" text
    router := ← fields.required "local" text
    defaultAction := ← fields.optional "default_action" text }

/-- A network. -/
def Network.decoder : Decoder Network := fun depth node => do
  let fields ← record
    ["name", "interface", "description", "firewall", "subnets", "extra"] depth node
  return {
    name := ← fields.required "name" text
    interface := ← fields.required "interface" text
    description := ← fields.optional "description" text
    firewall := ← fields.required "firewall" RuleSetNames.decoder
    subnets := ← fields.defaulted "subnets" [] (list Subnet.decoder)
    extra := ← fields.defaulted "extra" ∅ Template.decoder }

/-- A port group. -/
def PortGroup.decoder : Decoder PortGroup := fun depth node => do
  let fields ← record ["name", "description", "ports"] depth node
  return {
    name := ← fields.required "name" text
    description := ← fields.optional "description" text
    ports := ← fields.required "ports" (list Scalar.decoder) }

namespace Inventory

/-- An inventory. -/
def decoder : Decoder Inventory := fun depth node => do
  let fields ← record ["settings", "port_groups", "networks"] depth node
  return {
    settings := ← fields.defaulted "settings" ∅ Template.decoder
    portGroups := ← fields.defaulted "port_groups" [] (list PortGroup.decoder)
    networks := ← fields.defaulted "networks" [] (list Network.decoder) }

/-- The inventory that a text describes. -/
def ofYaml? (text : String) : Option Inventory := Yaml.decode? decoder text

end Inventory

end RouterConfig
