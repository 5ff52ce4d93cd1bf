/-
RouterConfig.Generation.Rules — numbered rules of the firewall and of
address translation.
-/
import RouterConfig.Generation.Basic
import RouterConfig.Inventory.Basic

namespace RouterConfig.Generation

/-! ## 1. Paths -/

/-- The path of a firewall rule set. -/
def ruleSetPath (name : String) : ConfigPath :=
  .ofSegments [.fixed "firewall", .fixed "name", .value name]

/-- The path of a rule in a firewall rule set. -/
def rulePath (name : String) (number : UInt32) : ConfigPath :=
  (ruleSetPath name).append [.fixed "rule", .value (Text.ofNat number.toNat)]

/-- The path of a rule of destination address translation. -/
def natRulePath (number : UInt32) : ConfigPath :=
  .ofSegments
    [.fixed "nat", .fixed "destination", .fixed "rule", .value (Text.ofNat number.toNat)]

/-! ## 2. Firewall rules -/

/-- One end of a connection, below its word in a rule. An end that demands nothing
leaves nothing. -/
def putEndpoint (rule : ConfigPath) (word : String) : Option Endpoint → Run Unit
  | none => return ()
  | some e => do
    let base := rule.words [word]
    putIfSome (base.words ["address"]) e.address
    putIfSome (base.words ["port"]) (e.port.map Scalar.render)
    putIfSome (base.words ["group", "port-group"]) e.portGroup

/-- A connection as the next rule of a rule set. -/
def putConnection (ruleSet : String) (c : Connection) : Run Unit := do
  let number ← count (RuleCounters.next (.firewall ruleSet))
  let rule := rulePath ruleSet number
  put (rule.words ["action"]) c.action
  put (rule.words ["protocol"]) c.protocol
  put (rule.words ["log"]) c.logValue
  putIfSome (rule.words ["description"]) c.description
  putEndpoint rule "source" c.source
  putEndpoint rule "destination" c.destination

/-! ## 3. Address translation -/

/-- A forwarded port of a host as the next rule of address translation. -/
def putForward (settings : Settings) (h : Host) (forward : UInt16 × UInt16) : Run Unit := do
  let number ← count (RuleCounters.next .nat)
  let rule := natRulePath number
  let outside := Text.ofNat forward.1.toNat
  let inside := Text.ofNat forward.2.toNat
  put (rule.words ["description"]) (h.name ++ " port " ++ outside ++ " to " ++ inside)
  put (rule.words ["inbound-interface"]) settings.nat.inboundInterface
  put (rule.words ["protocol"]) "tcp_udp"
  put (rule.words ["destination", "port"]) outside
  put (rule.words ["translation", "address"]) h.ipAddress
  put (rule.words ["translation", "port"]) inside

/-- The forwarded ports of a host, in ascending order of the outside port. -/
def putForwards (settings : Settings) (h : Host) : Run Unit :=
  forEach h.forwards.sorted (putForward settings h)

end RouterConfig.Generation
