/-
RouterConfig.Json.Basic — JSON values.

The fields of an object keep their order. A number is whole, or it is kept
as the text of a number with a fraction or an exponent, which nothing here
computes with.
-/

namespace RouterConfig

/-- A JSON value. -/
inductive Json where
  | null
  | bool (b : Bool)
  | integer (n : Int)
  /-- A number written with a fraction or an exponent. -/
  | decimal (text : String)
  | string (s : String)
  | array (items : List Json)
  | object (fields : List (String × Json))
  deriving Inhabited, Repr

namespace Json

/-- The strings of a list. -/
def strings (items : List String) : Json := .array (items.map .string)

/-- A value that may be missing, as `null` where it is. -/
def optional (encode : α → Json) : Option α → Json
  | none => .null
  | some a => encode a

/-- A field that is left out when its value is missing. -/
def fieldIfSome (name : String) (encode : α → Json) : Option α → List (String × Json)
  | none => []
  | some a => [(name, encode a)]

/-- A field that is left out when its list is empty. -/
def fieldIfAny (name : String) (encode : α → Json) (items : List α) : List (String × Json) :=
  if items.isEmpty then [] else [(name, .array (items.map encode))]

/-- The value of the last field of this name. -/
def lookup (name : String) (fields : List (String × Json)) : Option Json :=
  (fields.reverse.find? fun field => field.1 == name).map (·.2)

end Json

end RouterConfig
