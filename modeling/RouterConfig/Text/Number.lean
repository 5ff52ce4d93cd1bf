/-
RouterConfig.Text.Number — digits in several notations, and numbers with a
fraction or an exponent.

Of a number with a fraction only its size matters here: whether it is less
than half a unit above the largest number that 64 bits can hold.
-/

namespace RouterConfig.Text

/-! ## 1. Whole numbers -/

/-- The value of a digit, of `radix` ones. -/
def digit? (radix : Nat) (c : Char) : Option Nat :=
  let n :=
    if '0' ≤ c && c ≤ '9' then c.toNat - '0'.toNat
    else if 'a' ≤ c && c ≤ 'z' then c.toNat - 'a'.toNat + 10
    else if 'A' ≤ c && c ≤ 'Z' then c.toNat - 'A'.toNat + 10
    else radix
  if n < radix then some n else none

/-- The number that digits write. -/
def readDigits? (radix : Nat) (cs : List Char) : Option Nat := do
  guard !cs.isEmpty
  return (← cs.mapM (digit? radix)).foldl (fun n d => n * radix + d) 0

/-! ## 2. Fractions and exponents -/

/-- The least number that is too large for a number with a fraction: half a unit above
the largest. -/
def overflow : Nat := Nat.pow 2 1024 - Nat.pow 2 970

/-- Whether `digits` times ten to the power of `exponent` is less than the overflow. -/
def fits (digits : Nat) (exponent : Int) : Bool :=
  let size : Int := (Nat.toDigits 10 digits).length + exponent
  if digits = 0 || size < 309 then true
  else if size > 309 then false
  else
    match exponent with
    | .ofNat n => digits * Nat.pow 10 n < overflow
    | .negSucc n => digits < overflow * Nat.pow 10 (n + 1)

/-- The exponent behind a number, zero where there is none. -/
def readExponent? : List Char → Option Int
  | [] => some 0
  | e :: cs =>
    if e == 'e' || e == 'E' then
      match cs with
      | '-' :: cs => (readDigits? 10 cs).map fun n => -(n : Int)
      | '+' :: cs => (readDigits? 10 cs).map Int.ofNat
      | cs => (readDigits? 10 cs).map Int.ofNat
    else none

/-- Whether a text without a sign writes a number with or without a fraction. -/
def isMagnitude (cs : List Char) : Bool :=
  let whole := cs.takeWhile Char.isDigit
  let rest := cs.drop whole.length
  let (fraction, rest) : List Char × List Char := match rest with
    | '.' :: rest => (rest.takeWhile Char.isDigit, rest.dropWhile Char.isDigit)
    | rest => ([], rest)
  match readDigits? 10 (whole ++ fraction), readExponent? rest with
  | some digits, some exponent => fits digits (exponent - fraction.length)
  | _, _ => false

end RouterConfig.Text
