/-
RouterConfig.Settings.Json — settings from JSON values.

Every field has a default; unknown fields do not count.
-/
import RouterConfig.Json.Record
import RouterConfig.Settings.Basic

namespace RouterConfig

/-- The rule numbers of the firewall from JSON. -/
def CounterSettings.ofJson? (json : Json) : Option CounterSettings := do
  let default : CounterSettings := {}
  let record ← json.asRecord? ["rule_start", "rule_step"]
  let ruleStart ← Json.defaulted record "rule_start" default.ruleStart Json.asUInt32?
  let ruleStep ← Json.defaulted record "rule_step" default.ruleStep Json.asUInt32?
  some { ruleStart, ruleStep }

/-- The settings of address translation from JSON. -/
def NatSettings.ofJson? (json : Json) : Option NatSettings := do
  let default : NatSettings := {}
  let record ← json.asRecord? ["rule_start", "rule_step", "inbound_interface"]
  let ruleStart ← Json.defaulted record "rule_start" default.ruleStart Json.asUInt32?
  let ruleStep ← Json.defaulted record "rule_step" default.ruleStep Json.asUInt32?
  let inboundInterface ←
    Json.defaulted record "inbound_interface" default.inboundInterface Json.asString?
  some { ruleStart, ruleStep, inboundInterface }

/-- Settings from JSON. -/
def Settings.ofJson? (json : Json) : Option Settings := do
  let record ← json.asRecord? ["templates_dir", "strict_paths", "firewall", "nat"]
  let templatesDir ← Json.defaulted record "templates_dir" none (Json.asOption? Json.asString?)
  let strictPaths ← Json.defaulted record "strict_paths" false Json.asBool?
  let firewall ← Json.defaulted record "firewall" {} CounterSettings.ofJson?
  let nat ← Json.defaulted record "nat" {} NatSettings.ofJson?
  some { templatesDir, strictPaths, firewall, nat }

end RouterConfig
