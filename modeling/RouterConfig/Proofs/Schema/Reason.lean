/-
RouterConfig.Proofs.Schema.Reason — a reason behind an expression is only a
reason.

`ofExpression_reason`: an expression with a reason behind it is read as the
expression alone with the reason added. The reason is the one that was
written, the expression alone has none, and a check fails where it failed
before and says the reason.

## How the proof goes

The condition of an expression may be any text at all, also one of no known
shape. What is asked of it is told by its quotes alone. `unescapedQuotes`
counts those that are not escaped, and the scan for a reason is inside
quotes where the count is odd (`inQuote_foldl`, by induction on the text).
So the separator before the reason is found, and none before it
(`cutLast_eq_none_iff_odd`). Whatever the condition is read as, it is a
constraint that takes any reason (`reason_ofCondition`), and a reason
changes only what is said of a failure (`check_withReason`).

## Side conditions

Each quote of the expression that is not escaped is closed (their number is
even), and semicolons stand between quotes only (behind an odd number). The
reason is not empty and has no quotes. Patterns are read by any
`PatternReader`.
-/
import Mathlib.Algebra.Ring.Parity
import RouterConfig.Proofs.Schema.Documented

namespace RouterConfig

/-! ## 1. Quotes that are not escaped -/

namespace Expression

/-- The number of quotes that are not escaped. A backslash escapes the character behind it, which
may be a backslash. -/
def unescapedQuotes : List Char → Nat
  | [] => 0
  | '\\' :: _ :: cs => unescapedQuotes cs
  | '\x22' :: cs => unescapedQuotes cs + 1
  | _ :: cs => unescapedQuotes cs

/-- A scan is inside quotes when an odd number of them lies behind it. -/
theorem inQuote_foldl (cs : List Char) (inQuote : Bool) :
    (cs.foldl Scan.step ⟨inQuote, false⟩).inQuote =
      (inQuote ^^ decide (Odd (unescapedQuotes cs))) := by
  fun_induction unescapedQuotes cs generalizing inQuote with
  | case1 => simp
  | case2 c cs ih =>
    have hescaped : Scan.step (Scan.step ⟨inQuote, false⟩ '\\') c = ⟨inQuote, false⟩ := by
      simp [Scan.step]
    rw [List.foldl_cons, List.foldl_cons, hescaped, ih]
  | case3 cs ih =>
    have hquote : Scan.step ⟨inQuote, false⟩ '\x22' = ⟨!inQuote, false⟩ := by
      simp [Scan.step]
    rw [List.foldl_cons, hquote, ih]
    simp only [Nat.odd_add_one, decide_not, Bool.not_xor, Bool.xor_not]
  | case4 c cs hslash hquote ih =>
    rw [List.foldl_cons]
    by_cases hc : c = '\\'
    · -- only the last character can be a backslash here
      cases cs with
      | nil => simp [Scan.step, unescapedQuotes, hc]
      | cons d cs => exact absurd rfl (hslash d cs (by rw [hc]))
    · have hne : c ≠ '\x22' := hquote
      have hplain : Scan.step ⟨inQuote, false⟩ c = ⟨inQuote, false⟩ := by
        simp [Scan.step, hc, hne]
      rw [hplain, ih]

/-- A text has no separator exactly when it has its semicolons behind an odd number of quotes. -/
theorem cutLast_eq_none_iff_odd {cs : List Char} : cutLast ⟨false, false⟩ cs = none ↔
    ∀ before after, cs = before ++ ';' :: after → Odd (unescapedQuotes before) := by
  simp only [cutLast_eq_none_iff, inQuote_foldl, Bool.false_xor, decide_eq_true_eq]

end Expression

/-! ## 2. What a condition is read as has no reason -/

namespace Constraint

open Expression

theorem withReason_withReason (c : Constraint) (first second : Option String) :
    (c.withReason first).withReason second = c.withReason second := by
  cases c <;> rfl

/-- A condition is read as a constraint that takes any reason. -/
theorem reason_ofCondition (cs : List Char) (reason : Option String) :
    ((ofCondition cs).withReason reason).reason = reason := by
  rw [ofCondition]
  repeat' split
  all_goals rfl

/-- With a reason, a check fails where it failed, and says the reason. -/
theorem check_withReason {patterns : PatternReader} {c : Constraint} {r : String}
    (h : (c.withReason (some r)).reason = some r) (value : String) :
    (c.withReason (some r)).check patterns value =
      match c.check patterns value with
      | .fail _ => .fail r
      | outcome => outcome := by
  rw [check, check, holds?_withReason]
  cases c.holds? patterns value with
  | none => rfl
  | some met =>
    cases met with
    | true => rfl
    | false => simp [failure, h]

/-! ## 3. A reason behind an expression -/

/-- **A reason does not change what an expression means.** The expression may be any text whose
quotes are closed and whose semicolons are inside quotes, and the reason any text without quotes.
The check says the reason where it failed, however patterns are read. -/
theorem ofExpression_reason (patterns : PatternReader) {expression reason : String}
    (hclosed : Even (unescapedQuotes expression.toList))
    (hquoted : ∀ before after, expression.toList = before ++ ';' :: after →
      Odd (unescapedQuotes before))
    (hne : reason ≠ "") (hquote : '\x22' ∉ reason.toList) :
    let reasoned := expression ++ " ; \x22" ++ reason ++ "\x22"
    ofExpression reasoned = (ofExpression expression).withReason (some reason) ∧
    (ofExpression reasoned).reason = some reason ∧
    (ofExpression expression).reason = none ∧
    ∀ value, (ofExpression reasoned).check patterns value =
      match (ofExpression expression).check patterns value with
      | .fail _ => .fail reason
      | outcome => outcome := by
  intro reasoned
  have hout : (expression.toList.foldl Scan.step ⟨false, false⟩).inQuote = false := by
    rw [inQuote_foldl]
    simpa using hclosed
  have hplain : ofExpression expression =
      (ofCondition (Text.trimChars expression.toList)).withReason none := by
    rw [ofExpression, splitReason, cutLast_eq_none_iff_odd.mpr hquoted]
  have htext : reasoned.toList = expression.toList ++ (reasonText (some reason)).toList := by
    simp [reasoned, reasonText, inQuotes]
  have hreasoned : ofExpression reasoned = (ofExpression expression).withReason (some reason) := by
    rw [hplain, withReason_withReason, ofExpression, htext, splitReason_reason hout hne hquote]
  have hreason : ((ofExpression expression).withReason (some reason)).reason = some reason := by
    rw [hplain, withReason_withReason, reason_ofCondition]
  refine ⟨hreasoned, ?_, ?_, ?_⟩
  · rw [hreasoned, hreason]
  · rw [hplain, reason_ofCondition]
  · intro value
    rw [hreasoned, check_withReason hreason]

theorem ofExpression_reason_listed :
    let expression := "$VAR(@) in \x22a;b\x22, \x22c\x22"
    let reason := "neither a;b nor \\c;"
    (Even (unescapedQuotes expression.toList) ∧
      (∀ before after, expression.toList = before ++ ';' :: after → Odd (unescapedQuotes before)) ∧
      reason ≠ "" ∧ '\x22' ∉ reason.toList) ∧
    (ofExpression (expression ++ " ; \x22" ++ reason ++ "\x22")).check Pattern.reader "b" =
      .fail reason := by
  intro expression reason
  have hclosed : Even (unescapedQuotes expression.toList) := by decide
  have hcut : cutLast ⟨false, false⟩ expression.toList = none := by decide
  have hquoted := cutLast_eq_none_iff_odd.mp hcut
  have hne : reason ≠ "" := by decide
  have hquote : '\x22' ∉ reason.toList := by decide
  refine ⟨⟨hclosed, hquoted, hne, hquote⟩, ?_⟩
  have hfails : (ofExpression expression).check Pattern.reader "b" =
      .fail "value 'b' is not allowed" := by
    decide +kernel
  rw [(ofExpression_reason Pattern.reader hclosed hquoted hne hquote).2.2.2 "b", hfails]

end Constraint

end RouterConfig
