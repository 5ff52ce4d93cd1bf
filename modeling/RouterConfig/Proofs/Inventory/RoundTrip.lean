/-
RouterConfig.Proofs.Inventory.RoundTrip — an inventory that was written as
JSON is read as the inventory.

`inventory_json_round_trip`: every inventory is found again from its JSON
value; a template that was read from any JSON value is found again from the
one it is written as; and reading a value whose kind is not written takes
the first kind that accepts it.

## How the proof goes

A value of a template is written without a word on its kind. Reading takes
the first kind that accepts it (`Scalar.kinds`, `TemplateValue.kinds`), and
the kinds before the written one refuse it
(`Template.valueOfJson?_valueJson`, by induction on the value and the
entries below it). The readers look at the value itself instead of trying
one kind after the other, which is shown to be the same
(`valueOfJson?_eq_findSome?`). The entries of a template are in order, so
that putting them in order again leaves them (`arrange_of_ordered`).

A record is found again field by field, since no field name occurs twice:
one lemma for each record, from the endpoints of a connection up to the
inventory, by `simp` with the lemmas of its parts. A field that is left out
when it has its default is read as the default (`asOption?_optional`).

## Side conditions

There are none. Inventories and templates are well-formed by construction:
entries are ordered and their names distinct, outside ports of a host are
distinct and have 16 bits. JSON values are those that a text gives when it is
parsed; the text itself is the matter of the `Json` modules.
-/
import Mathlib.Data.List.Induction
import RouterConfig.Inventory.Json
import RouterConfig.Proofs.Text.Numerals

namespace RouterConfig

/-! ## 1. Fields and plain values -/

namespace Json

variable {α : Type}

@[simp] theorem lookup_nil (name : String) : lookup name [] = none := rfl

/-- The later of two fields with one name counts. -/
@[simp] theorem lookup_cons (name : String) (field : String × Json) (fields : List (String × Json)) :
    lookup name (field :: fields) =
      (lookup name fields).or (if field.1 = name then some field.2 else none) := by
  simp only [lookup, List.reverse_cons, List.find?_append, List.find?_singleton, Option.map_or]
  congr 1
  by_cases h : field.1 = name <;> simp [h]

@[simp] theorem asRecord?_object (names : List String) (fields : List (String × Json)) :
    asRecord? names (.object fields) = some fields := rfl

/-- A value that may be missing is found again, unless it is written like a missing one. -/
theorem asOption?_optional {encode : α → Json} {decode : Json → Option α}
    (h : ∀ a, decode (encode a) = some a) (hnull : ∀ a, encode a ≠ .null) (o : Option α) :
    asOption? decode (optional encode o) = some o := by
  cases o with
  | none => rfl
  | some a =>
    rw [optional, asOption?.eq_2 _ _ (hnull a), h]
    rfl

/-- Items that are each found again are found again as a list. -/
theorem mapM_map_eq_some {β : Type} {encode : α → β} {decode : β → Option α} {items : List α}
    (h : ∀ a ∈ items, decode (encode a) = some a) : (items.map encode).mapM decode = some items := by
  induction items with
  | nil => rfl
  | cons a items ih =>
    rw [List.map_cons, List.mapM_cons, h a List.mem_cons_self,
      ih fun b hb => h b (List.mem_cons_of_mem _ hb)]
    rfl

theorem asList?_map {encode : α → Json} {decode : Json → Option α}
    (h : ∀ a, decode (encode a) = some a) (items : List α) :
    asList? decode (.array (items.map encode)) = some items :=
  mapM_map_eq_some fun a _ => h a

@[simp] theorem asString?_string (s : String) : asString? (.string s) = some s := rfl

@[simp] theorem asBool?_bool (b : Bool) : asBool? (.bool b) = some b := rfl

@[simp] theorem asOption?_string (o : Option String) :
    asOption? asString? (optional .string o) = some o :=
  asOption?_optional asString?_string (by simp) o

@[simp] theorem asList?_strings (items : List String) :
    asList? asString? (strings items) = some items :=
  asList?_map asString?_string items

/-- A number within the limit is read as it was written. -/
theorem asNat?_integer {limit n : Nat} (h : n ≤ limit) : asNat? limit (.integer n) = some n := by
  show (if n ≤ limit then some n else none) = some n
  rw [if_pos h]

@[simp] theorem asUInt32?_integer (n : UInt32) : asUInt32? (.integer n.toNat) = some n := by
  have hlt : n.toNat < UInt32.size := n.toNat_lt_size
  rw [asUInt32?, asNat?_integer (by omega), Option.map_some, UInt32.ofNat_toNat]

@[simp] theorem asUInt16?_integer (n : UInt16) : asUInt16? (.integer n.toNat) = some n := by
  have hlt : n.toNat < UInt16.size := n.toNat_lt_size
  rw [asUInt16?, asNat?_integer (by omega), Option.map_some, UInt16.ofNat_toNat]

/-- A whole number of 64 bits. -/
def asInt64? : Json → Option Int64
  | .integer n => Text.int64OfInt? n
  | _ => none

/-- The fields of an object. -/
def asObject? : Json → Option (List (String × Json))
  | .object fields => some fields
  | _ => none

/-- Nothing but `null`. -/
def asNull? : Json → Option Unit
  | .null => some ()
  | _ => none

end Json

/-! ## 2. Templates -/

namespace Scalar

@[simp] theorem ofJson?_toJson (s : Scalar) : ofJson? s.toJson = some s := by
  cases s with
  | text => rfl
  | integer n => simp [toJson, ofJson?, Text.int64OfInt?_toInt]
  | flag => rfl

/-- No single value is written like a missing one. -/
theorem toJson_ne_null (s : Scalar) : s.toJson ≠ .null := by
  cases s <;> simp [toJson]

/-- The kinds of a single value, each as its reader, in the order in which they are tried. -/
def kinds : List (Json → Option Scalar) :=
  [fun json => json.asString?.map .text,
    fun json => json.asInt64?.map .integer,
    fun json => json.asBool?.map .flag]

/-- No kind of a single value accepts what an earlier one does, so that a reader that looks at the
value itself finds the first. -/
theorem ofJson?_eq_findSome? (json : Json) : ofJson? json = kinds.findSome? (· json) := by
  cases json with
  | integer n =>
    cases hn : Text.int64OfInt? n <;>
      simp [ofJson?, kinds, Json.asString?, Json.asInt64?, Json.asBool?, hn]
  | _ => simp [ofJson?, kinds, Json.asString?, Json.asInt64?, Json.asBool?]

end Scalar

/-- The kinds of a value under a name, each as its reader, in the order in which they are tried. -/
def TemplateValue.kinds : List (Json → Option TemplateValue) :=
  [fun json => (Scalar.ofJson? json).map .scalar,
    fun json => (json.asList? Scalar.ofJson?).map .list,
    fun json => (json.asObject?.bind Template.entriesOfJson?).map .node,
    fun json => json.asNull?.map fun _ => .presence]

namespace Template

/-- The first kind that accepts a value is found by looking at the value itself. -/
theorem valueOfJson?_eq_findSome? (json : Json) :
    valueOfJson? json = TemplateValue.kinds.findSome? (· json) := by
  cases json with
  | integer n =>
    cases hn : Text.int64OfInt? n <;>
      simp [valueOfJson?, TemplateValue.kinds, Scalar.ofJson?, Json.asList?, Json.asObject?, Json.asNull?, hn]
  | array items =>
    cases hitems : items.mapM Scalar.ofJson? <;>
      simp [valueOfJson?, TemplateValue.kinds, Scalar.ofJson?, Json.asList?, Json.asObject?, Json.asNull?,
        hitems]
  | object fields =>
    cases hfields : entriesOfJson? fields <;>
      simp [valueOfJson?, TemplateValue.kinds, Scalar.ofJson?, Json.asList?, Json.asObject?, Json.asNull?,
        hfields]
  | _ =>
    simp [valueOfJson?, TemplateValue.kinds, Scalar.ofJson?, Json.asList?, Json.asObject?, Json.asNull?]

mutual

/-- A value is found again, with all below it as it was written. -/
theorem valueOfJson?_valueJson : (value : TemplateValue) →
    valueOfJson? (valueJson value) = some value
  | .scalar (.text _) => rfl
  | .scalar (.integer n) => by
    simp [valueJson, Scalar.toJson, valueOfJson?, Text.int64OfInt?_toInt]
  | .scalar (.flag _) => rfl
  | .list items => by
    rw [valueJson, valueOfJson?, Json.mapM_map_eq_some fun s _ => Scalar.ofJson?_toJson s]
    rfl
  | .node entries => by
    rw [valueJson, valueOfJson?, entriesOfJson?_fieldsJson entries]
    rfl
  | .presence => rfl

/-- Entries are found again one by one, as they were written. -/
theorem entriesOfJson?_fieldsJson : (entries : TemplateEntries) →
    entriesOfJson? (fieldsJson entries) = some entries
  | [] => rfl
  | (name, value) :: rest => by
    rw [fieldsJson, entriesOfJson?, valueOfJson?_valueJson value, entriesOfJson?_fieldsJson rest]
    rfl

end

end Template

namespace TemplateEntries

/-- An entry before all others is placed in front. -/
theorem place_of_forall_lt {name : String} {value : TemplateValue} {entries : TemplateEntries}
    (h : ∀ e ∈ entries, name < e.1) : place name value entries = (name, value) :: entries := by
  cases entries with
  | nil => rfl
  | cons head rest =>
    rw [place, if_pos (h head List.mem_cons_self)]

mutual

/-- Entries that are in order stay as they are. -/
theorem arrange_of_ordered : {entries : TemplateEntries} → Ordered entries → arrange entries = entries
  | [], _ => rfl
  | (name, value) :: rest, h => by
    obtain ⟨hname, hvalue, hrest⟩ := h
    rw [arrange, arrangeValue_of_ordered hvalue, arrange_of_ordered hrest, place_of_forall_lt hname]

theorem arrangeValue_of_ordered : {value : TemplateValue} → OrderedValue value →
    arrangeValue value = value
  | .node entries, h => by
    rw [OrderedValue] at h
    rw [arrangeValue, arrange_of_ordered h]
  | .scalar _, _ => rfl
  | .list _, _ => rfl
  | .presence, _ => rfl

end

end TemplateEntries

namespace Template

/-- A template is made anew from its own entries. -/
theorem ofEntries_entries (template : Template) : ofEntries template.entries = template := by
  obtain ⟨entries, h⟩ := template
  simp only [ofEntries, TemplateEntries.arrange_of_ordered h]

@[simp] theorem ofJson?_toJson (template : Template) : ofJson? template.toJson = some template := by
  rw [toJson, ofJson?, entriesOfJson?_fieldsJson, Option.map_some, ofEntries_entries]

end Template

/-! ## 3. Forwarded ports -/

namespace Forwards

/-- A new outside port comes last. -/
theorem put_of_not_mem {outside inside : UInt16} {pairs : List (UInt16 × UInt16)}
    (h : outside ∉ pairs.map (·.1)) : put outside inside pairs = pairs ++ [(outside, inside)] := by
  induction pairs with
  | nil => rfl
  | cons pair rest ih =>
    obtain ⟨hne, hrest⟩ : outside ≠ pair.1 ∧ outside ∉ rest.map (·.1) := by simpa using h
    rw [put, if_neg (Ne.symm hne), ih hrest, List.cons_append]

/-- Pairs without a repeated outside port are kept in their order. -/
theorem pairs_ofList {pairs : List (UInt16 × UInt16)} (h : (pairs.map (·.1)).Nodup) :
    (ofList pairs).pairs = pairs := by
  induction pairs using List.reverseRecOn with
  | nil => rfl
  | append_singleton pairs pair ih =>
    rw [List.map_append, List.nodup_append] at h
    obtain ⟨hpairs, -, hdisjoint⟩ := h
    have hnot : pair.1 ∉ (ofList pairs).pairs.map (·.1) := by
      rw [ih hpairs]
      exact fun hmem => hdisjoint _ hmem _ (by simp) rfl
    rw [ofList, List.foldl_append, ← ofList]
    show put pair.1 pair.2 (ofList pairs).pairs = pairs ++ [pair]
    rw [put_of_not_mem hnot, ih hpairs]

/-- Forwarded ports are made anew from their own pairs. -/
theorem ofList_pairs (forwards : Forwards) : ofList forwards.pairs = forwards := by
  obtain ⟨pairs, h⟩ := forwards
  have hpairs := pairs_ofList h
  cases hlist : ofList pairs with
  | mk pairs' distinct =>
    rw [hlist] at hpairs
    obtain rfl : pairs' = pairs := hpairs
    rfl

end Forwards

namespace Host

/-- A port is found again from its name, the numeral of 16 bits. -/
theorem portOfName?_ofNat (port : UInt16) : portOfName? (Text.ofNat port.toNat) = some port := by
  have hlt : port.toNat < UInt16.size := port.toNat_lt_size
  have hzero : ¬ ((Text.ofNat port.toNat).toList.head? = some '0' ∧
      (Text.ofNat port.toNat).toList.length ≠ 1) := by
    rintro ⟨hhead, hlength⟩
    rw [Text.eq_zero_of_head?_ofNat hhead] at hlength
    exact hlength (by decide)
  simp only [portOfName?]
  rw [if_neg (by simpa using hzero), Text.readDigits_ofNat]
  simp [hlt]

/-- A forwarded port is a field whose name is the outside port. -/
theorem forwardOfField?_field (pair : UInt16 × UInt16) :
    forwardOfField? (Text.ofNat pair.1.toNat, .integer pair.2.toNat) = some pair := by
  simp [forwardOfField?, portOfName?_ofNat]

@[simp] theorem forwardsOfJson?_pairs (forwards : Forwards) :
    forwardsOfJson? (.object (forwards.pairs.map fun (outside, inside) =>
      (Text.ofNat outside.toNat, .integer inside.toNat))) = some forwards := by
  rw [forwardsOfJson?, Json.mapM_map_eq_some fun pair _ => forwardOfField?_field pair, Option.map_some,
    Forwards.ofList_pairs]

end Host

/-! ## 4. Records -/

theorem Direction.ofJson?_label (d : Direction) : Direction.ofJson? (.string d.label) = some d := by
  cases d <;> decide

theorem Endpoint.ofJson?_toJson (e : Endpoint) : Endpoint.ofJson? e.toJson = some e := by
  have hport := Json.asOption?_optional Scalar.ofJson?_toJson Scalar.toJson_ne_null e.port
  simp [Endpoint.ofJson?, Endpoint.toJson, Json.defaulted, hport]

theorem Endpoint.toJson_ne_null (e : Endpoint) : e.toJson ≠ .null := by simp [toJson]

theorem Connection.ofJson?_toJson (c : Connection) : Connection.ofJson? c.toJson = some c := by
  have hends := Json.asOption?_optional Endpoint.ofJson?_toJson Endpoint.toJson_ne_null
  simp [Connection.ofJson?, Connection.toJson, Json.required, Json.defaulted, hends,
    Direction.ofJson?_label]

/-- A host is found again with its mapping, its connections and its forwarded ports. -/
theorem Host.ofJson?_toJson (h : Host) : Host.ofJson? h.toJson = some h := by
  have hconnections := Json.asList?_map Connection.ofJson?_toJson h.connections
  simp [Host.ofJson?, Host.toJson, Json.required, Json.defaulted, hconnections]

theorem AddressRange.ofJson?_toJson (r : AddressRange) : AddressRange.ofJson? r.toJson = some r := by
  simp [AddressRange.ofJson?, AddressRange.toJson, Json.required]

theorem AddressRange.toJson_ne_null (r : AddressRange) : r.toJson ≠ .null := by simp [toJson]

theorem Subnet.ofJson?_toJson (s : Subnet) : Subnet.ofJson? s.toJson = some s := by
  have hlease := Json.asOption?_optional Json.asUInt32?_integer (by simp) s.lease
  have hrange := Json.asOption?_optional AddressRange.ofJson?_toJson AddressRange.toJson_ne_null s.range
  have hhosts := Json.asList?_map Host.ofJson?_toJson s.hosts
  simp [Subnet.ofJson?, Subnet.toJson, Json.required, Json.defaulted, hlease, hrange, hhosts]

/-- The rule set for the router itself is written under the name `local`. -/
theorem RuleSetNames.ofJson?_toJson (n : RuleSetNames) : RuleSetNames.ofJson? n.toJson = some n := by
  simp [RuleSetNames.ofJson?, RuleSetNames.toJson, Json.required, Json.defaulted]

theorem Network.ofJson?_toJson (n : Network) : Network.ofJson? n.toJson = some n := by
  have hsubnets := Json.asList?_map Subnet.ofJson?_toJson n.subnets
  simp [Network.ofJson?, Network.toJson, Json.required, Json.defaulted, RuleSetNames.ofJson?_toJson,
    hsubnets]

theorem PortGroup.ofJson?_toJson (g : PortGroup) : PortGroup.ofJson? g.toJson = some g := by
  have hports := Json.asList?_map Scalar.ofJson?_toJson g.ports
  simp [PortGroup.ofJson?, PortGroup.toJson, Json.required, Json.defaulted, hports]

/-- An inventory is found again from its JSON value, field by field. -/
theorem Inventory.ofJson?_toJson (i : Inventory) : Inventory.ofJson? i.toJson = some i := by
  have hgroups := Json.asList?_map PortGroup.ofJson?_toJson i.portGroups
  have hnetworks := Json.asList?_map Network.ofJson?_toJson i.networks
  simp [Inventory.ofJson?, Inventory.toJson, Json.defaulted, hgroups, hnetworks]

/-- An inventory is found again from its JSON value, and a template that was read from any JSON
value from the one it is written as. Reading a value whose kind is not written takes the first kind
that accepts it. -/
theorem inventory_json_round_trip :
    (∀ i : Inventory, Inventory.ofJson? i.toJson = some i) ∧
    (∀ (json : Json) (template : Template), Template.ofJson? json = some template →
      Template.ofJson? template.toJson = some template) ∧
    (∀ json, Template.valueOfJson? json = TemplateValue.kinds.findSome? (· json)) ∧
    (∀ json, Scalar.ofJson? json = Scalar.kinds.findSome? (· json)) :=
  ⟨Inventory.ofJson?_toJson, fun _ template _ => Template.ofJson?_toJson template,
    Template.valueOfJson?_eq_findSome?, Scalar.ofJson?_eq_findSome?⟩

theorem inventory_json_round_trip_settings :
    let json : Json := .object [("system", .object [("name-server", .array [.string "9.9.9.9", .integer 53]),
      ("host-name", .string "edge"), ("ipv6", .null)]), ("system", .object [("offload", .bool true)])]
    let template := Template.ofEntries [("system", .node [("offload", .scalar (.flag true))])]
    Template.ofJson? json = some template ∧ Template.ofJson? template.toJson = some template := by
  intro json template
  have hread : Template.ofJson? json = some template := rfl
  exact ⟨hread, inventory_json_round_trip.2.1 json template hread⟩

end RouterConfig
