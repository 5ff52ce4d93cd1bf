/-
RouterConfig.Schema.Expression — constraints from the two texts in which a
grammar writes them.

An expression is `condition ; "reason"`, where the reason may be left out.
A condition has one of four shapes, tried in this order: a pattern, a list
of values, a command, and a conjunction of comparisons with numbers. What
has none of them is kept as it is.

An `allowed` text is a command. If it does no more than echo plain words,
these are the allowed values.
-/
import RouterConfig.Schema.Constraint
import RouterConfig.Unicode.Word

namespace RouterConfig

namespace Expression

/-! ## 1. Condition and reason -/

/-- Where a scan for the separator stands. -/
structure Scan where
  inQuote : Bool
  escaped : Bool
  deriving DecidableEq, Inhabited, Repr

/-- The scan after one character. A backslash escapes the next character, and a quote that is not
escaped opens or closes quoted text. -/
def Scan.step (scan : Scan) (c : Char) : Scan :=
  if c == '\\' && !scan.escaped then { scan with escaped := true }
  else if c == '\x22' && !scan.escaped then ⟨!scan.inQuote, false⟩
  else { scan with escaped := false }

/-- Whether a character separates the condition from the reason: a semicolon outside quotes. -/
def Scan.separates (scan : Scan) (c : Char) : Bool := c == ';' && !scan.inQuote

/-- The text before and after the last separator. -/
def cutLast (scan : Scan) : List Char → Option (List Char × List Char)
  | [] => none
  | c :: cs =>
    match cutLast (scan.step c) cs with
    | some (before, after) => some (c :: before, after)
    | none => if scan.separates c then some ([], cs) else none

/-- The text between two quotes, when it starts and ends with one. -/
def unquote (cs : List Char) : List Char :=
  match cs with
  | '\x22' :: rest => if rest.getLast? == some '\x22' then rest.dropLast else cs
  | _ => cs

/-- The condition of an expression and its reason. An empty reason is none. -/
def splitReason (cs : List Char) : List Char × Option String :=
  match cutLast ⟨false, false⟩ cs with
  | none => (Text.trimChars cs, none)
  | some (before, after) =>
    let reason := unquote (Text.trimChars after)
    (Text.trimChars before, if reason.isEmpty then none else some (String.ofList reason))

/-! ## 2. Shapes of a condition -/

/-- How a condition writes the value under check. -/
def subject : List Char := ['$', 'V', 'A', 'R', '(', '@', ')']

/-- The text after at least one blank. -/
def afterBlanks? (cs : List Char) : Option (List Char) :=
  match cs with
  | [] => none
  | c :: _ => if Text.isBlank c then some (Text.trimStart cs) else none

/-- The text after a leading `!`, and whether there was one. -/
def readNegation : List Char → Bool × List Char
  | '!' :: cs => (true, Text.trimStart cs)
  | cs => (false, cs)

/-- The text after a word and the blanks that must follow it. -/
def afterWord? (word cs : List Char) : Option (List Char) :=
  (Text.dropStart? word cs).bind afterBlanks?

/-- The shape `pattern $VAR(@) "…"`: whether it is negated, and the text between the first quote and
the last, which ends the condition. -/
def readPattern? (cs : List Char) : Option (Bool × List Char) :=
  let (negated, cs) := readNegation cs
  match ((afterWord? "pattern".toList cs).bind (afterWord? subject)) with
  | some ('\x22' :: body) =>
    if body.getLast? == some '\x22' then some (negated, body.dropLast) else none
  | _ => none

/-- The texts between quotes, from left to right. -/
def quotedTexts : Option (List Char) → List Char → List (List Char)
  | _, [] => []
  | none, c :: cs => quotedTexts (if c == '\x22' then some [] else none) cs
  | some text, c :: cs =>
    if c == '\x22' then text.reverse :: quotedTexts none cs else quotedTexts (some (c :: text)) cs

/-- The shape `$VAR(@) in "…", "…"`: whether it is negated, and the values. -/
def readValues? (cs : List Char) : Option (Bool × List String) :=
  let (negated, cs) := readNegation cs
  match (afterWord? subject cs).bind (afterWord? "in".toList) with
  | some rest =>
    let values := (quotedTexts none rest).map String.ofList
    if values.isEmpty then none else some (negated, values)
  | none => none

/-- The shape `exec …`: the command, without the quotes around it. -/
def readCommand? (cs : List Char) : Option (List Char) :=
  match afterWord? "exec".toList cs with
  | some (c :: rest) => some (unquote (Text.trimChars (c :: rest)))
  | _ => none

/-! ## 3. Comparisons -/

/-- How a condition compares the value with a number. -/
inductive Comparison where
  | atLeast
  | above
  | atMost
  | below
  deriving DecidableEq, Inhabited, Repr

/-- The sign of a comparison. -/
def readComparison? : List Char → Option (Comparison × List Char)
  | '>' :: '=' :: cs => some (.atLeast, cs)
  | '<' :: '=' :: cs => some (.atMost, cs)
  | '>' :: cs => some (.above, cs)
  | '<' :: cs => some (.below, cs)
  | _ => none

/-- A number with an optional minus sign. Its digits may be those of any script. -/
def readBound? (cs : List Char) : Option (List Char × List Char) :=
  let (sign, cs) : List Char × List Char := match cs with
    | '-' :: rest => (['-'], rest)
    | cs => ([], cs)
  let digits := cs.takeWhile Unicode.isDecimal
  if digits.isEmpty then none else some (sign ++ digits, cs.dropWhile Unicode.isDecimal)

/-- A comparison `$VAR(@) >= 5` at the start of the text. -/
def readTerm? (cs : List Char) : Option ((Comparison × List Char) × List Char) := do
  let rest ← Text.dropStart? subject cs
  let (comparison, rest) ← readComparison? (Text.trimStart rest)
  let (bound, rest) ← readBound? (Text.trimStart rest)
  some ((comparison, bound), rest)

/-- The comparisons of a text, and what is left of the text without them. -/
def scanTerms : Nat → List Char → List (Comparison × List Char) × List Char
  | 0, cs => ([], cs)
  | _ + 1, [] => ([], [])
  | fuel + 1, c :: cs =>
    match readTerm? (c :: cs) with
    | some (term, rest) =>
      let (terms, residue) := scanTerms fuel rest
      (term :: terms, residue)
    | none =>
      let (terms, residue) := scanTerms fuel cs
      (terms, c :: residue)

/-- Whether a character may stand between comparisons. -/
def joinsTerms (c : Char) : Bool := Text.isBlank c || c == '&' || c == '(' || c == ')'

/-- The next number, or the largest one. -/
def successor (n : Int64) : Int64 := if n = Int64.maxValue then n else n + 1

/-- The number before, or the smallest one. -/
def predecessor (n : Int64) : Int64 := if n = Int64.minValue then n else n - 1

/-- Lower and upper bound of a conjunction, both included. -/
structure Bounds where
  min : Option Int64 := none
  max : Option Int64 := none
  deriving DecidableEq, Inhabited, Repr

/-- The bounds after one more comparison. The last comparison on a side decides it, and a number out
of range is passed over. -/
def Bounds.narrow (bounds : Bounds) (term : Comparison × List Char) : Bounds :=
  match Text.readInt64 term.2 with
  | none => bounds
  | some n =>
    match term.1 with
    | .atLeast => { bounds with min := some n }
    | .above => { bounds with min := some (successor n) }
    | .atMost => { bounds with max := some n }
    | .below => { bounds with max := some (predecessor n) }

/-- A conjunction of comparisons: nothing stands between them but blanks, ampersands and
parentheses. -/
def readBounds? (cs : List Char) : Option Bounds :=
  let (terms, residue) := scanTerms cs.length cs
  if !terms.isEmpty && residue.all joinsTerms then
    some (terms.foldl Bounds.narrow {})
  else none

end Expression

namespace Constraint

open Expression

/-- The constraint of a condition, without a reason. -/
def ofCondition (cs : List Char) : Constraint :=
  match readPattern? cs with
  | some (false, p) => .pattern (String.ofList p) none
  | some (true, p) => .negatedPattern (String.ofList p) none
  | none =>
    match readValues? cs with
    | some (false, values) => .allowedValues values none
    | some (true, values) => .disallowedValues values none
    | none =>
      match readCommand? cs with
      | some command => .validateCommand (String.ofList command) none
      | none =>
        match readBounds? cs with
        | some bounds => .range bounds.min bounds.max none
        | none => .unrecognized (String.ofList cs) none

/-- The constraint of an expression. -/
def ofExpression (text : String) : Constraint :=
  let (condition, reason) := splitReason text.toList
  (ofCondition condition).withReason reason

/-- Characters that make an echoed text more than a list of words. -/
def shellChars : List Char :=
  ['$', '\x60', '|', ';', '(', ')', '\x7b', '\x7d', '*', '?', '\n', '&']

/-- The text without the options `-n ` before it. -/
def dropOptions : List Char → List Char
  | '-' :: 'n' :: ' ' :: cs => dropOptions cs
  | cs => cs

/-- A word without quotes at either end. -/
def stripQuotes (cs : List Char) : List Char :=
  let isQuote (c : Char) : Bool := c == '\x22' || c == '\x27'
  ((cs.dropWhile isQuote).reverse.dropWhile isQuote).reverse

/-- The words that a command echoes, when it does no more than that. -/
def echoedWords? (command : List Char) : Option (List String) := do
  let rest ← Text.dropStart? "echo ".toList command
  let rest := Text.trimChars (dropOptions rest)
  if rest.any shellChars.contains then none
  else
    let words := ((Text.words rest).map stripQuotes).filter (!·.isEmpty)
    if words.isEmpty then none else some (words.map String.ofList)

/-- The constraint of an `allowed` text. -/
def ofAllowed (text : String) : Constraint :=
  let command := Text.trimChars text.toList
  match echoedWords? command with
  | some words => .allowedValues words none
  | none => .allowedCommand (String.ofList command)

end Constraint

end RouterConfig
