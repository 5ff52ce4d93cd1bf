/-
RouterConfig.Schema.ValueType — the types that a grammar may declare for
the value of a node.
-/
import RouterConfig.Address

namespace RouterConfig

/-- The type of a node's value. -/
inductive ValueType where
  /-- No type is declared: a flag or a container. -/
  | unset
  | bool
  | u32
  | txt
  | macaddr
  | ipv4
  | ipv6
  | ipv4net
  | ipv6net
  deriving DecidableEq, Inhabited, Repr

namespace ValueType

/-- The types that a declaration can name. -/
def declarable : List ValueType :=
  [.bool, .u32, .txt, .macaddr, .ipv4, .ipv6, .ipv4net, .ipv6net]

/-- The word of the grammar for a type. -/
def token : ValueType → String
  | .unset => "unset"
  | .bool => "bool"
  | .u32 => "u32"
  | .txt => "txt"
  | .macaddr => "macaddr"
  | .ipv4 => "ipv4"
  | .ipv6 => "ipv6"
  | .ipv4net => "ipv4net"
  | .ipv6net => "ipv6net"

/-- The name of a type as difference messages show it. -/
def title : ValueType → String
  | .unset => "Unset"
  | .bool => "Bool"
  | .u32 => "U32"
  | .txt => "Txt"
  | .macaddr => "MacAddr"
  | .ipv4 => "Ipv4"
  | .ipv6 => "Ipv6"
  | .ipv4net => "Ipv4Net"
  | .ipv6net => "Ipv6Net"

/-- The type that a word names. No word names the missing type. -/
def ofToken? (word : String) : Option ValueType := declarable.find? fun t => t.token == word

/-- What is said of a word that names no type. -/
def unknownMessage (word : String) : String := "unknown node type '" ++ word ++ "'"

/-- The type of a declaration: the first of its comma-separated words that names one. -/
def ofDeclaration? (text : String) : Option ValueType :=
  (Text.splitAll ',' text.toList).findSome? fun word =>
    ofToken? (String.ofList (Text.trimChars word))

/-- Whether a text is a value of the type. -/
def admits (type : ValueType) (value : String) : Bool :=
  let cs := value.toList
  match type with
  | .unset | .txt => true
  | .bool => value == "true" || value == "false"
  | .u32 => (Text.readNat (UInt32.size - 1) cs).isSome
  | .macaddr => Address.isHardware cs
  | .ipv4 => Address.isIPv4 cs
  | .ipv6 => Address.isIPv6 cs
  | .ipv4net => Address.isNetwork Address.isIPv4 32 cs
  | .ipv6net => Address.isNetwork Address.isIPv6 128 cs

/-- A word is read as the type whose word it is. -/
theorem ofToken?_eq_some_iff {word : String} {t : ValueType} :
    ofToken? word = some t ↔ t ≠ .unset ∧ word = t.token := by
  constructor
  · intro h
    have hm := List.mem_of_find?_eq_some h
    have ht := List.find?_some h
    refine ⟨?_, by simpa using (beq_iff_eq.mp ht).symm⟩
    rintro rfl
    simp [declarable] at hm
  · rintro ⟨h, rfl⟩
    cases t <;> first | exact absurd rfl h | decide

end ValueType

end RouterConfig
