/-
RouterConfig.Settings.Toml — settings from TOML texts.

Every field has a default; unknown fields do not count. The fields of a
record may also be listed in an array in their order.
-/
import RouterConfig.Settings.Basic
import RouterConfig.Toml.Document

namespace RouterConfig

open Toml (Item Entries)

namespace Toml.Item

/-- A text. -/
def asString? : Item → Option String
  | .string text => some text
  | _ => none

/-- A truth value. -/
def asBool? : Item → Option Bool
  | .boolean b => some b
  | _ => none

/-- An unsigned 32-bit number. -/
def asUInt32? : Item → Option UInt32
  | .integer n => if 0 ≤ n && n < UInt32.size then some (.ofNat n.toNat) else none
  | _ => none

/-- The fields of a record with these field names. A date has none of them. -/
def asRecord? (names : List String) : Item → Option Entries
  | .table _ entries => some entries
  | .array items => some (names.zip items)
  | .tables all => some (names.zip (all.map (.table .header ·)))
  | .dateTime => some []
  | _ => none

end Toml.Item

/-- A field with a default. -/
def Toml.Entries.defaulted (entries : Entries) (name : String) (default : α)
    (decode : Item → Option α) : Option α :=
  match entries.get? name with
  | none => some default
  | some item => decode item

/-- The rule numbers of the firewall. -/
def CounterSettings.ofItem? (item : Item) : Option CounterSettings := do
  let default : CounterSettings := {}
  let fields ← item.asRecord? ["rule_start", "rule_step"]
  let ruleStart ← fields.defaulted "rule_start" default.ruleStart Item.asUInt32?
  let ruleStep ← fields.defaulted "rule_step" default.ruleStep Item.asUInt32?
  some { ruleStart, ruleStep }

/-- The settings of address translation. -/
def NatSettings.ofItem? (item : Item) : Option NatSettings := do
  let default : NatSettings := {}
  let fields ← item.asRecord? ["rule_start", "rule_step", "inbound_interface"]
  let ruleStart ← fields.defaulted "rule_start" default.ruleStart Item.asUInt32?
  let ruleStep ← fields.defaulted "rule_step" default.ruleStep Item.asUInt32?
  let inboundInterface ←
    fields.defaulted "inbound_interface" default.inboundInterface Item.asString?
  some { ruleStart, ruleStep, inboundInterface }

namespace Settings

/-- The settings of a whole table. -/
def ofEntries? (fields : Entries) : Option Settings := do
  let templatesDir ← fields.defaulted "templates_dir" none fun item => item.asString?.map some
  let strictPaths ← fields.defaulted "strict_paths" false Item.asBool?
  let firewall ← fields.defaulted "firewall" {} CounterSettings.ofItem?
  let nat ← fields.defaulted "nat" {} NatSettings.ofItem?
  some { templatesDir, strictPaths, firewall, nat }

/-- The settings that a text describes. -/
def ofToml? (text : String) : Option Settings := (Toml.read? text).bind ofEntries?

end Settings

end RouterConfig
