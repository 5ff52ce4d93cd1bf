/-
RouterConfig.Address — which texts are addresses, networks and hardware
addresses.

An IPv4 address is four numbers of at most 255 without leading zeros. An
IPv6 address is eight groups of up to four hexadecimal digits, where one
run of groups may be left out as `::` and the last two groups may be
written as an IPv4 address. Nothing may follow an address.
-/
import RouterConfig.Text.Basic
import RouterConfig.Text.Integer

namespace RouterConfig.Address

/-! ## 1. IPv4 -/

/-- A number from 0 to 255 without leading zeros. -/
def isOctet (cs : List Char) : Bool :=
  cs.length ≤ 3 && (cs.length ≤ 1 || cs.head? != some '0') &&
    (Text.readDigits cs).any (· ≤ 255)

/-- An IPv4 address. -/
def isIPv4 (cs : List Char) : Bool :=
  let parts := Text.splitAll '.' cs
  parts.length == 4 && parts.all isOctet

/-! ## 2. IPv6 -/

/-- Whether a character is a hexadecimal digit. -/
def isHexDigit (c : Char) : Bool :=
  c.isDigit || ('a' ≤ c && c ≤ 'f') || ('A' ≤ c && c ≤ 'F')

/-- A group of one to four hexadecimal digits. -/
def isGroup (cs : List Char) : Bool :=
  1 ≤ cs.length && cs.length ≤ 4 && cs.all isHexDigit

/-- How many groups a list of written groups makes, when each of them is a group. An IPv4 address
may stand last and makes two. -/
def countGroups? : List (List Char) → Option Nat
  | [] => some 0
  | [last] => if isGroup last then some 1 else if isIPv4 last then some 2 else none
  | group :: next :: rest =>
    if isGroup group then (countGroups? (next :: rest)).map (· + 1) else none

/-- The groups written between colons; the empty text has none. -/
def groupsOf (cs : List Char) : List (List Char) :=
  if cs.isEmpty then [] else Text.splitAll ':' cs

/-- The text before and after the first `::`. -/
def cutGap : List Char → Option (List Char × List Char)
  | ':' :: ':' :: cs => some ([], cs)
  | c :: cs => (cutGap cs).map fun (a, b) => (c :: a, b)
  | [] => none

/-- Groups before a gap: none of them may be an IPv4 address. -/
def countHead? (groups : List (List Char)) : Option Nat :=
  if groups.all isGroup then some groups.length else none

/-- An IPv6 address. -/
def isIPv6 (cs : List Char) : Bool :=
  match cutGap cs with
  | none => countGroups? (groupsOf cs) == some 8
  | some (before, after) =>
    match countHead? (groupsOf before), countGroups? (groupsOf after) with
    | some m, some n => m + n ≤ 7
    | _, _ => false

/-! ## 3. Networks and hardware addresses -/

/-- An address and a length of its network part, of at most `limit` bits. -/
def isNetwork (isAddress : List Char → Bool) (limit : Nat) (cs : List Char) : Bool :=
  match Text.cut '/' cs with
  | none => false
  | some (address, length) => isAddress address && (Text.readNat limit length).isSome

/-- Six pairs of hexadecimal digits between colons. -/
def isHardware (cs : List Char) : Bool :=
  let parts := Text.splitAll ':' cs
  parts.length == 6 && parts.all fun part => part.length == 2 && part.all isHexDigit

end RouterConfig.Address
