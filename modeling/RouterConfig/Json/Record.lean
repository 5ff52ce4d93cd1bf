/-
RouterConfig.Json.Record — the fields of a JSON value that stands for a
record.

A record is written as an object, whose unknown fields do not count, or as
an array of its fields in their order, of which the last ones may be left
out.
-/
import RouterConfig.Json.Basic
import RouterConfig.Text.Integer

namespace RouterConfig.Json

/-! ## 1. Plain values -/

/-- A text. -/
def asString? : Json → Option String
  | .string s => some s
  | _ => none

/-- A truth value. -/
def asBool? : Json → Option Bool
  | .bool b => some b
  | _ => none

/-- A whole number from 0 up to `limit`. -/
def asNat? (limit : Nat) : Json → Option Nat
  | .integer (.ofNat n) => if n ≤ limit then some n else none
  | _ => none

/-- An unsigned 32-bit number. -/
def asUInt32? (json : Json) : Option UInt32 := (asNat? (UInt32.size - 1) json).map UInt32.ofNat

/-- An unsigned 16-bit number. -/
def asUInt16? (json : Json) : Option UInt16 := (asNat? (UInt16.size - 1) json).map UInt16.ofNat

/-- A list, item by item. -/
def asList? (decode : Json → Option α) : Json → Option (List α)
  | .array items => items.mapM decode
  | _ => none

/-- A value that may be `null`. -/
def asOption? (decode : Json → Option α) : Json → Option (Option α)
  | .null => some none
  | json => (decode json).map some

/-! ## 2. Records -/

/-- The fields of a record with these field names. -/
def asRecord? (names : List String) : Json → Option (List (String × Json))
  | .object fields => some fields
  | .array items => if items.length ≤ names.length then some (names.zip items) else none
  | _ => none

/-- A field that has to be there. -/
def required (record : List (String × Json)) (name : String) (decode : Json → Option α) : Option α :=
  (lookup name record).bind decode

/-- A field with a default. -/
def defaulted (record : List (String × Json)) (name : String) (default : α)
    (decode : Json → Option α) : Option α :=
  match lookup name record with
  | none => some default
  | some json => decode json

end RouterConfig.Json
