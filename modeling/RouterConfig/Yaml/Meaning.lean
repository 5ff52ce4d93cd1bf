/-
RouterConfig.Yaml.Meaning — what a scalar without quotes means.

It may be nothing, a truth value, a whole number in one of four notations
or a number with a fraction. What is none of these is a text. Digits behind
a leading zero are a text as well.
-/
import RouterConfig.Text.Number

namespace RouterConfig.Yaml

/-- What a plain scalar means. -/
inductive Meaning where
  | null
  | flag (b : Bool)
  | integer (n : Int)
  /-- A number with a fraction or an exponent, or one beyond all numbers. -/
  | decimal
  | text
  deriving DecidableEq, Inhabited, Repr

/-! ## 1. Words -/

/-- Whether a word means nothing. -/
def isNull (word : String) : Bool := ["~", "null", "Null", "NULL"].contains word

/-- The truth value of a word. -/
def readBool? (word : String) : Option Bool :=
  if ["true", "True", "TRUE"].contains word then some true
  else if ["false", "False", "FALSE"].contains word then some false
  else none

/-! ## 2. Whole numbers -/

/-- Whether digits stand behind a leading zero. -/
def isPadded (cs : List Char) : Bool :=
  cs.length > 1 && cs.head? == some '0' && cs.all Char.isDigit

/-- The number that a text without a sign writes. -/
def readMagnitude? : List Char → Option Nat
  | '0' :: 'x' :: cs => Text.readDigits? 16 cs
  | '0' :: 'o' :: cs => Text.readDigits? 8 cs
  | '0' :: 'b' :: cs => Text.readDigits? 2 cs
  | cs => if isPadded cs then none else Text.readDigits? 10 cs

/-- The text without a leading plus sign. -/
def dropPlus : List Char → List Char
  | '+' :: cs => cs
  | cs => cs

/-- The number up to `limit` that a text without a minus sign writes. -/
def readUnsigned? (limit : Nat) (text : String) : Option Nat :=
  (readMagnitude? (dropPlus text.toList)).filter (· ≤ limit)

/-- The whole number of at most 128 bits that a text writes. -/
def readInteger? (text : String) : Option Int :=
  match text.toList with
  | '-' :: cs => ((readMagnitude? cs).filter (· ≤ Nat.pow 2 127)).map fun n => -(n : Int)
  | _ => (readUnsigned? (Nat.pow 2 128 - 1) text).map Int.ofNat

/-! ## 3. Other numbers -/

/-- Whether a text writes a number with or without a fraction, or one beyond all numbers. -/
def isDecimal (text : String) : Bool :=
  [".inf", ".Inf", ".INF", "+.inf", "+.Inf", "+.INF", "-.inf", "-.Inf", "-.INF",
    ".nan", ".NaN", ".NAN"].contains text ||
  match text.toList with
  | '-' :: cs | '+' :: cs | cs => Text.isMagnitude cs

/-! ## 4. Meanings -/

/-- Whether digits stand behind a leading zero and perhaps a sign. -/
def isPaddedNumber (text : String) : Bool :=
  match text.toList with
  | '-' :: cs | '+' :: cs | cs => isPadded cs

/-- What a plain scalar means. -/
def Meaning.ofPlain (text : String) : Meaning :=
  if text.isEmpty || isNull text then .null
  else
    match readBool? text, readInteger? text with
    | some b, _ => .flag b
    | none, some n => .integer n
    | none, none => if !isPaddedNumber text && isDecimal text then .decimal else .text

end RouterConfig.Yaml
