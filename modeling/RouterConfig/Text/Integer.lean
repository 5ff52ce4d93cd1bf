/-
RouterConfig.Text.Integer — decimal text of whole numbers within a range.

A number is written with the fewest digits. It is read from ASCII digits
after an optional plus sign (and, where the type is signed, an optional
minus sign); leading zeros are fine, a blank or an empty run of digits is
not, and a number outside the range of its type is refused.
-/

namespace RouterConfig.Text

/-! ## 1. Reading -/

/-- The value of a non-empty run of ASCII digits. -/
def readDigits (cs : List Char) : Option Nat :=
  if cs.isEmpty || !cs.all Char.isDigit then none else some (Nat.ofDigitChars 10 cs 0)

/-- A natural number of at most `limit`, after an optional plus sign. -/
def readNat (limit : Nat) (cs : List Char) : Option Nat :=
  let digits := match cs with
    | '+' :: rest => rest
    | _ => cs
  (readDigits digits).filter (· ≤ limit)

/-- The 64-bit integer of this value, when it is in range. -/
def int64OfInt? (i : Int) : Option Int64 :=
  if Int64.minValue.toInt ≤ i ∧ i ≤ Int64.maxValue.toInt then some (Int64.ofInt i) else none

/-- A signed 64-bit integer. -/
def readInt64 (cs : List Char) : Option Int64 :=
  match cs with
  | '-' :: rest => (readDigits rest).bind fun n => int64OfInt? (-(n : Int))
  | '+' :: rest => (readDigits rest).bind fun n => int64OfInt? n
  | _ => (readDigits cs).bind fun n => int64OfInt? n

/-! ## 2. Writing -/

/-- The decimal text of a natural number. -/
def ofNat (n : Nat) : String := String.ofList (Nat.toDigits 10 n)

/-- The decimal text of an integer. -/
def ofInt : Int → String
  | .ofNat n => ofNat n
  | .negSucc n => "-" ++ ofNat (n + 1)

/-- The last `width` hexadecimal digits of a number, in lower case. -/
def hexDigits (width n : Nat) : String :=
  let digits := Nat.toDigits 16 n
  String.ofList (List.replicate (width - digits.length) '0' ++ digits)

/-! ## 3. What is written reads back -/

theorem readDigits_toDigits (n : Nat) : readDigits (Nat.toDigits 10 n) = some n := by
  have hne : Nat.toDigits 10 n ≠ [] := by
    intro h
    have := Nat.ofDigitChars_toDigits (b := 10) (n := n) (by decide) (by decide)
    have hl : 0 < (Nat.toDigits 10 n).length := Nat.length_toDigits_pos
    simp [h] at hl
  have hall : (Nat.toDigits 10 n).all Char.isDigit = true := by
    simpa using fun c hc => Nat.isDigit_of_mem_toDigits (by decide) (by decide) hc
  simp [readDigits, hne, hall, Nat.ofDigitChars_toDigits]

end RouterConfig.Text
