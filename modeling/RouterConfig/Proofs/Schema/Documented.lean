/-
RouterConfig.Proofs.Schema.Documented — the syntax in which constraints are
documented, and that reading it gives the constraints back.

`documented_inverts`: a condition in a documented form (`Documented`: `text`
is how it stands in an expression, `constraint` is what it asks for) is read
as its constraint, with its reason where it has one. An `echo` of words in
`allowed` is read as the list of its words, without the options `-n` in
front.

`echoed_option_lost`: such an option is a word like any other, but is not
listed.

## How the proof goes

An expression is first cut at the last semicolon outside quotes, so the text
of a condition has to be quiet: a scan finds no separator in it and comes
out of it as it went in (`Quiet`). Texts between quotes are quiet by
`quiet_inQuotes`. What is left of the separator is the condition
(`splitReason_reason`), and `Schema.Shapes` says what each shape is read as
(`Documented.ofCondition_text`). A range is written as one or two
comparisons, also in parentheses (`ofCondition_bracketed`). Echoed words
have no blanks, so they are found again one by one (`words_join_echoed`).

## Side conditions

A text between quotes may hold anything but a quote and a backslash at the
end (`Quotable`), either of which would change where the quotes close; a
reason may be any text without quotes that is not empty. An echoed word has
no blanks, none of the characters that a shell reads, and no quotes at its
ends (`Echoed`).
-/
import RouterConfig.Proofs.Schema.Conjunction

namespace RouterConfig

namespace Expression

open Text

/-! ## 1. Documented conditions -/

/-- A range that is bounded on at least one side. -/
inductive Limits where
  | atLeast (least : Int64)
  | atMost (most : Int64)
  | between (least most : Int64)
  deriving DecidableEq, Repr

/-- A condition of one of the documented forms. A range may stand in parentheses. -/
inductive Documented where
  | range (bracketed : Bool) (limits : Limits)
  | pattern (negated : Bool) (text : String)
  | values (negated : Bool) (first : String) (more : List String)
  | command (text : String)
  deriving DecidableEq, Repr

/-- The text of a comparison with a number. -/
def comparedText (c : Comparison) (n : Int64) : String :=
  "$VAR(@) " ++ String.ofList c.sign ++ " " ++ ofInt n.toInt

def Limits.text : Limits → String
  | .atLeast a => comparedText .atLeast a
  | .atMost b => comparedText .atMost b
  | .between a b => comparedText .atLeast a ++ " && " ++ comparedText .atMost b

/-- The comparisons that a range is written with. -/
def Limits.terms : Limits → List (Comparison × Int64)
  | .atLeast a => [(.atLeast, a)]
  | .atMost b => [(.atMost, b)]
  | .between a b => [(.atLeast, a), (.atMost, b)]

def Limits.constraint : Limits → Constraint
  | .atLeast a => .range (some a) none none
  | .atMost b => .range none (some b) none
  | .between a b => .range (some a) (some b) none

def inQuotes (text : String) : String := "\x22" ++ text ++ "\x22"

def bang (negated : Bool) : String := if negated then "! " else ""

/-- How a condition is written. -/
def Documented.text : Documented → String
  | .range false limits => limits.text
  | .range true limits => "(" ++ limits.text ++ ")"
  | .pattern negated p => bang negated ++ "pattern $VAR(@) " ++ inQuotes p
  | .values negated v vs => bang negated ++ "$VAR(@) in " ++ join ", " ((v :: vs).map inQuotes)
  | .command c => "exec " ++ inQuotes c

/-- What a condition asks for. -/
def Documented.constraint : Documented → Constraint
  | .range _ limits => limits.constraint
  | .pattern negated p => .ofPattern negated p
  | .values negated v vs => .ofValues negated (v :: vs)
  | .command c => .validateCommand c none

/-- The texts that stand between quotes in a condition. -/
def Documented.quoted : Documented → List String
  | .range _ _ => []
  | .pattern _ p => [p]
  | .values _ v vs => v :: vs
  | .command c => [c]

/-- A text that can stand between quotes. -/
def Quotable (text : String) : Prop :=
  '\x22' ∉ text.toList ∧ text.toList.getLast? ≠ some '\\'

/-- The reason behind a condition, when there is one. -/
def reasonText : Option String → String
  | none => ""
  | some r => " ; " ++ inQuotes r

/-! ## 2. Scans for the reason -/

/-- A scan finds no separator in the text and comes out of it as it went in. -/
def Quiet (cs : List Char) : Prop :=
  cutLast ⟨false, false⟩ cs = none ∧ cs.foldl Scan.step ⟨false, false⟩ = ⟨false, false⟩

theorem Quiet.append {xs ys : List Char} (hx : Quiet xs) (hy : Quiet ys) : Quiet (xs ++ ys) := by
  constructor
  · rw [cutLast_append hx.1, hx.2, hy.1]
    rfl
  · rw [List.foldl_append, hx.2, hy.2]

/-- Plain characters are quiet. -/
theorem quiet_plain {cs : List Char} (h : ∀ c ∈ cs, Shape.Plain c) : Quiet cs :=
  ⟨cutLast_eq_none (fun c hc => (h c hc).2.2) _, Shape.foldl_step_plain h⟩

theorem step_within {c : Char} (h : '\x22' ≠ c) (escaped : Bool) :
    Scan.step ⟨true, escaped⟩ c = ⟨true, c == '\\' && !escaped⟩ := by
  cases hc : c == '\\' && !escaped <;> simp [Scan.step, hc, Ne.symm h]

/-- Inside quotes a scan stays inside until the next quote. -/
theorem foldl_within {text : List Char} (h : '\x22' ∉ text) (escaped : Bool) :
    (text.foldl Scan.step ⟨true, escaped⟩).inQuote = true := by
  induction text generalizing escaped with
  | nil => rfl
  | cons c text ih =>
    obtain ⟨hc, htext⟩ : '\x22' ≠ c ∧ '\x22' ∉ text := by simpa using h
    rw [List.foldl_cons, step_within hc, ih htext]

/-- Inside quotes a scan finds no separator. -/
theorem cutLast_within {text : List Char} (h : '\x22' ∉ text) (escaped : Bool) :
    cutLast ⟨true, escaped⟩ text = none := by
  rw [cutLast_eq_none_iff]
  rintro before after rfl
  exact foldl_within (fun hmem => h (List.mem_append_left _ hmem)) escaped

/-- Behind a text that does not end with a backslash, the next quote is not escaped. -/
theorem foldl_quotable {text : String} (h : Quotable text) :
    text.toList.foldl Scan.step ⟨true, false⟩ = ⟨true, false⟩ := by
  obtain ⟨hquote, hlast⟩ := h
  rcases List.eq_nil_or_concat text.toList with hnil | ⟨init, c, hconcat⟩
  · rw [hnil]
    rfl
  · rw [hconcat] at hquote hlast ⊢
    rw [List.concat_eq_append] at hquote hlast ⊢
    obtain ⟨hinit, hc⟩ : '\x22' ∉ init ∧ '\x22' ≠ c := by simpa using hquote
    have hslash : c ≠ '\\' := by simpa using hlast
    have hin := foldl_within hinit false
    rw [List.foldl_append, List.foldl_cons, List.foldl_nil]
    generalize init.foldl Scan.step ⟨true, false⟩ = scan at hin ⊢
    obtain ⟨inQuote, escaped⟩ := scan
    obtain rfl : inQuote = true := hin
    rw [step_within hc]
    simp [hslash]

/-- A text between quotes is quiet, whatever separators it holds. -/
theorem quiet_inQuotes {text : String} (h : Quotable text) : Quiet (inQuotes text).toList := by
  have htext : (inQuotes text).toList = ['\x22'] ++ (text.toList ++ ['\x22']) := by
    simp [inQuotes]
  have hopen : (['\x22'] : List Char).foldl Scan.step ⟨false, false⟩ = ⟨true, false⟩ := by decide
  constructor
  · rw [htext, cutLast_append (by decide), hopen, cutLast_append (cutLast_within h.1 false),
      foldl_quotable h]
    rfl
  · rw [htext, List.foldl_append, hopen, List.foldl_append, foldl_quotable h]
    rfl

/-- A separator that is found in the rest is the last one of the whole text. -/
theorem cutLast_append_of_some {scan : Scan} {xs ys before after : List Char}
    (h : cutLast (xs.foldl Scan.step scan) ys = some (before, after)) :
    cutLast scan (xs ++ ys) = some (xs ++ before, after) := by
  induction xs generalizing scan with
  | nil => exact h
  | cons c xs ih => rw [List.cons_append, cutLast, ih h, List.cons_append]

/-- Quotes around a text are taken off again. -/
theorem unquote_inQuotes (text : String) : unquote (inQuotes text).toList = text.toList := by
  have htext : (inQuotes text).toList = '\x22' :: (text.toList ++ ['\x22']) := by simp [inQuotes]
  simp [htext, unquote]

theorem trimChars_inQuotes (text : String) :
    trimChars (inQuotes text).toList = (inQuotes text).toList := by
  have htext : (inQuotes text).toList = ('\x22' :: text.toList) ++ ['\x22'] := by simp [inQuotes]
  rw [trimChars, htext, List.cons_append, trimStart_cons (by decide), ← List.cons_append,
    trimEnd_append _ (by decide)]
  rfl

/-- Whatever stands outside quotes before it, a reason is split off whole. -/
theorem splitReason_reason {cs : List Char}
    (hout : (cs.foldl Scan.step ⟨false, false⟩).inQuote = false) {r : String} (hne : r ≠ "")
    (hquote : '\x22' ∉ r.toList) :
    splitReason (cs ++ (reasonText (some r)).toList) = (trimChars cs, some r) := by
  have hquotes : cutLast ⟨false, false⟩ (inQuotes r).toList = none := by
    have htext : (inQuotes r).toList = ['\x22'] ++ (r.toList ++ ['\x22']) := by simp [inQuotes]
    rw [htext, cutLast_append (by decide), List.foldl_cons, List.foldl_nil,
      show Scan.step ⟨false, false⟩ '\x22' = ⟨true, false⟩ by decide,
      cutLast_append (cutLast_within hquote false), cutLast_eq_none (by simp)]
    rfl
  have hcut : cutLast (cs.foldl Scan.step ⟨false, false⟩) (reasonText (some r)).toList =
      some ([' '], ' ' :: (inQuotes r).toList) := by
    generalize cs.foldl Scan.step ⟨false, false⟩ = scan at hout ⊢
    obtain ⟨inQuote, escaped⟩ := scan
    obtain rfl : inQuote = false := hout
    have htext : (reasonText (some r)).toList = ' ' :: ';' :: ' ' :: (inQuotes r).toList := by
      simp [reasonText]
    have hblank : ∀ escaped, Scan.step ⟨false, escaped⟩ ' ' = ⟨false, false⟩ := by decide
    have hsemicolon : Scan.step ⟨false, false⟩ ';' = ⟨false, false⟩ := by decide
    rw [htext, cutLast, cutLast, cutLast, hblank, hsemicolon, hblank, hquotes]
    rfl
  have hblank : trimChars (' ' :: (inQuotes r).toList) = (inQuotes r).toList := by
    rw [trimChars_cons (by decide), trimChars_inQuotes]
  have hr : r.toList ≠ [] := by simpa using hne
  rw [splitReason, cutLast_append_of_some hcut]
  simp only [trimChars_concat (show isBlank ' ' = true by decide), hblank, unquote_inQuotes]
  simp [hr]

/-! ## 3. What a documented condition is read as -/

theorem gap_space : Gap [' '] := by
  intro c hc
  obtain rfl : c = ' ' := by simpa using hc
  decide

theorem negation_bang (negated : Bool) : Negation negated (bang negated).toList := by
  cases negated with
  | false => exact .absent
  | true => exact .bang gap_space

/-- A comparison with a number is written as the shape of that name. -/
theorem comparedText_writes (c : Comparison) (n : Int64) :
    (Shape.comparison c n).Writes (comparedText c n).toList := by
  obtain ⟨hread, hplus⟩ := readInt64_numeral n
  have h := Shape.Writes.comparison (c := c) gap_space gap_space hread hplus
  simpa [comparedText, subject] using h

theorem pattern_writes (negated : Bool) (p : String) :
    (Shape.pattern negated p).Writes (Documented.pattern negated p).text.toList := by
  have h := Shape.Writes.pattern (p := p) (negation_bang negated) gap_space (by simp) gap_space
    (by simp)
  simpa [Documented.text, subject, inQuotes] using h

/-- Quoted texts with commas between them are a list of values. -/
theorem listing_join {v : String} {vs : List String} (h : ∀ t ∈ v :: vs, '\x22' ∉ t.toList) :
    Listing (v :: vs) (join ", " ((v :: vs).map inQuotes)).toList := by
  induction vs generalizing v with
  | nil => simpa [inQuotes] using Listing.one (h v List.mem_cons_self)
  | cons next vs ih =>
    have hrest := ih (fun t ht => h t (List.mem_cons_of_mem _ ht))
    have hcomma : '\x22' ∉ [',', ' '] := by decide
    have := Listing.more (h v List.mem_cons_self) hcomma hrest
    simpa [join_cons_cons, inQuotes] using this

theorem values_writes (negated : Bool) {v : String} {vs : List String}
    (h : ∀ t ∈ v :: vs, '\x22' ∉ t.toList) :
    (Shape.values negated (v :: vs)).Writes (Documented.values negated v vs).text.toList := by
  have hwrites := Shape.Writes.values (negation_bang negated) gap_space (by simp) gap_space
    (by simp) (listing_join h)
  simpa [Documented.text, subject] using hwrites

/-- A text with no blanks at its ends. -/
def Framed (cs : List Char) : Prop :=
  (∃ c tail, cs = c :: tail ∧ isBlank c = false) ∧ ∃ init c, cs = init ++ [c] ∧ isBlank c = false

theorem Framed.trimChars {cs : List Char} (h : Framed cs) : trimChars cs = cs := by
  obtain ⟨⟨c, tail, hhead, hc⟩, init, d, hlast, hd⟩ := h
  exact trimChars_of_ends (by simpa [hhead] using hc) (by simpa [hlast] using hd)

theorem Framed.append {xs ys : List Char} (hx : Framed xs) (hy : Framed ys)
    (between : List Char) : Framed (xs ++ (between ++ ys)) := by
  obtain ⟨⟨c, tail, rfl, hc⟩, -⟩ := hx
  obtain ⟨-, init, d, rfl, hd⟩ := hy
  exact ⟨⟨c, _, rfl, hc⟩, c :: tail ++ (between ++ init), d, by simp, hd⟩

theorem framed_singleton {c : Char} (h : isBlank c = false) : Framed [c] :=
  ⟨⟨c, [], rfl, h⟩, [], c, rfl, h⟩

theorem Shape.Writes.framed {shape : Shape} {cs : List Char} (h : shape.Writes cs) : Framed cs :=
  ⟨h.head, h.getLast⟩

namespace Limits

/-- The text of a range has no quotes and no semicolons. -/
theorem plain (limits : Limits) : ∀ c ∈ limits.text.toList, Shape.Plain c := by
  have hcompared : ∀ c n, ∀ d ∈ (comparedText c n).toList, Shape.Plain d :=
    fun c n => (comparedText_writes c n).plain
  cases limits with
  | atLeast a => exact hcompared _ a
  | atMost b => exact hcompared _ b
  | between a b =>
    intro d hd
    simp only [text, String.toList_append, List.mem_append] at hd
    rcases hd with (hd | hd) | hd
    · exact hcompared _ a d hd
    · exact Shape.ampersands_plain d hd
    · exact hcompared _ b d hd

theorem framed (limits : Limits) : Framed limits.text.toList := by
  have hcompared : ∀ c n, Framed (comparedText c n).toList :=
    fun c n => (comparedText_writes c n).framed
  cases limits with
  | atLeast a => exact hcompared _ a
  | atMost b => exact hcompared _ b
  | between a b =>
    have h := (hcompared .atLeast a).append (hcompared .atMost b) ampersands
    simpa [text, ampersands] using h

/-- The text of a range is a conjunction, also within parentheses. -/
theorem conjunction (limits : Limits) {before after : List Char} (hbefore : Joins before)
    (hafter : Joins after) (hstops : Stops after) :
    Conjunction limits.terms (before ++ (limits.text.toList ++ after)) := by
  cases limits with
  | atLeast a => exact .term hbefore (comparedText_writes _ a) hstops (.done hafter)
  | atMost b => exact .term hbefore (comparedText_writes _ b) hstops (.done hafter)
  | between a b =>
    have hlast := Conjunction.term Shape.joins_ampersands (comparedText_writes .atMost b) hstops
      (.done hafter)
    have h := Conjunction.term hbefore (comparedText_writes .atLeast a)
      (Shape.stops_ampersands _) hlast
    simpa [text, terms, ampersands] using h

theorem readBounds?_text (limits : Limits) {before after : List Char} (hbefore : Joins before)
    (hafter : Joins after) (hstops : Stops after) :
    readBounds? (before ++ (limits.text.toList ++ after)) = some (boundsOf limits.terms) := by
  refine (limits.conjunction hbefore hafter hstops).readBounds? ?_
  cases limits <;> simp [terms]

/-- The bounds of the comparisons are those of the range. -/
theorem ofBounds_terms (limits : Limits) :
    Constraint.ofBounds (boundsOf limits.terms) = limits.constraint := by
  cases limits <;> rfl

/-- A range is read as its bounds. -/
theorem ofCondition_text (limits : Limits) :
    Constraint.ofCondition limits.text.toList = limits.constraint := by
  obtain ⟨c, n, rest, htext⟩ : ∃ c n rest,
      limits.text.toList = (comparedText c n).toList ++ rest := by
    cases limits with
    | atLeast a => exact ⟨.atLeast, a, [], by simp [text]⟩
    | atMost b => exact ⟨.atMost, b, [], by simp [text]⟩
    | between a b => exact ⟨.atLeast, a, (" && " ++ comparedText .atMost b).toList, by simp [text]⟩
  have hread := limits.readBounds?_text joins_nil joins_nil stops_nil
  rw [List.nil_append, List.append_nil, htext] at hread
  rw [htext, ofCondition_comparison (comparedText_writes c n), hread]
  exact limits.ofBounds_terms

/-- Where an opening parenthesis stands first, only a conjunction is left of the shapes. -/
theorem ofCondition_bracketed (limits : Limits) :
    Constraint.ofCondition ('(' :: (limits.text.toList ++ [')'])) = limits.constraint := by
  have hopen : Joins ['('] := by simp [Joins, joinsTerms]
  have hclose : Joins [')'] := by simp [Joins, joinsTerms]
  have hstops : Stops [')'] := by
    intro d hd
    obtain rfl : ')' = d := by simpa using hd
    decide
  have hread := limits.readBounds?_text hopen hclose hstops
  rw [List.singleton_append] at hread
  generalize limits.text.toList ++ [')'] = cs at hread ⊢
  have hnegation : readNegation ('(' :: cs) = (false, '(' :: cs) := rfl
  have hpattern : readPattern? ('(' :: cs) = none := by
    simp [readPattern?, hnegation, afterWord?_cons_ne]
  have hvalues : readValues? ('(' :: cs) = none := by
    simp [readValues?, hnegation, subject, afterWord?_cons_ne]
  have hcommand : readCommand? ('(' :: cs) = none := readCommand?_cons_ne (by decide) cs
  simp only [Constraint.ofCondition, hpattern, hvalues, hcommand, hread]
  exact limits.ofBounds_terms

end Limits

theorem ofCondition_command (c : String) :
    Constraint.ofCondition (Documented.command c).text.toList = .validateCommand c none := by
  have htext : (Documented.command c).text.toList =
      "exec".toList ++ ([' '] ++ (inQuotes c).toList) := by
    simp [Documented.text]
  have hquotes : (inQuotes c).toList = '\x22' :: (c.toList ++ ['\x22']) := by simp [inQuotes]
  have hcommand : readCommand? (Documented.command c).text.toList = some c.toList := by
    have hafter := afterWord?_gap "exec".toList gap_space (by simp)
      (show isBlank '\x22' = false by decide) (c.toList ++ ['\x22'])
    rw [← hquotes, ← htext] at hafter
    rw [readCommand?, hafter, hquotes]
    simp only [← hquotes, trimChars_inQuotes, unquote_inQuotes]
  have hnegation : readNegation (Documented.command c).text.toList =
      (false, 'e' :: (Documented.command c).text.toList.tail) := by
    rw [htext]
    rfl
  have hpattern : readPattern? (Documented.command c).text.toList = none := by
    simp [readPattern?, hnegation, afterWord?_cons_ne]
  have hvalues : readValues? (Documented.command c).text.toList = none := by
    simp [readValues?, hnegation, subject, afterWord?_cons_ne]
  simp only [Constraint.ofCondition, hpattern, hvalues, hcommand, String.ofList_toList]

namespace Documented

variable {c : Documented}

/-- A documented condition is read as its constraint. -/
theorem ofCondition_text (h : ∀ t ∈ c.quoted, Quotable t) :
    Constraint.ofCondition c.text.toList = c.constraint := by
  cases c with
  | range bracketed limits =>
    cases bracketed with
    | false => exact limits.ofCondition_text
    | true => simpa [text, constraint] using limits.ofCondition_bracketed
  | pattern negated p => exact ofCondition_writes (pattern_writes negated p)
  | values negated v vs => exact ofCondition_writes (values_writes negated fun t ht => (h t ht).1)
  | command c => exact ofCondition_command c

theorem framed_inQuotes (t : String) : Framed (inQuotes t).toList := by
  have hquote := framed_singleton (show isBlank '\x22' = false by decide)
  simpa [inQuotes] using hquote.append hquote t.toList

theorem framed (h : ∀ t ∈ c.quoted, Quotable t) : Framed c.text.toList := by
  cases c with
  | range bracketed limits =>
    cases bracketed with
    | false => exact limits.framed
    | true =>
      have hopen := framed_singleton (show isBlank '(' = false by decide)
      have hclose := framed_singleton (show isBlank ')' = false by decide)
      simpa [text] using hopen.append hclose limits.text.toList
  | pattern negated p => exact (pattern_writes negated p).framed
  | values negated v vs => exact (values_writes negated fun t ht => (h t ht).1).framed
  | command c =>
    have hexec := framed_singleton (show isBlank 'e' = false by decide)
    simpa [text] using hexec.append (framed_inQuotes c) "xec ".toList

theorem quiet_join {ts : List String} (h : ∀ t ∈ ts, Quotable t) :
    Quiet (join ", " (ts.map inQuotes)).toList := by
  induction ts with
  | nil => exact quiet_plain (by simp)
  | cons t ts ih =>
    have ht := quiet_inQuotes (h t List.mem_cons_self)
    have hts := ih (fun u hu => h u (List.mem_cons_of_mem _ hu))
    cases ts with
    | nil => exact ht
    | cons u ts =>
      have hcomma : Quiet ", ".toList := quiet_plain (Shape.plain_of_all (by decide))
      simpa [join_cons_cons] using ht.append (hcomma.append hts)

/-- A documented condition hides its separators inside quotes. -/
theorem quiet (h : ∀ t ∈ c.quoted, Quotable t) : Quiet c.text.toList := by
  have hplain : ∀ {cs : List Char}, (cs.all fun c => decide (Shape.Plain c)) = true → Quiet cs :=
    fun hall => quiet_plain (Shape.plain_of_all hall)
  have hbang : ∀ negated, Quiet (bang negated).toList := by
    intro negated
    cases negated <;> exact hplain (by decide)
  cases c with
  | range bracketed limits =>
    have hlimits := quiet_plain limits.plain
    cases bracketed with
    | false => exact hlimits
    | true =>
      have hopen : Quiet "(".toList := hplain (by decide)
      have hclose : Quiet ")".toList := hplain (by decide)
      simpa [text] using hopen.append (hlimits.append hclose)
  | pattern negated p =>
    have hsubject : Quiet "pattern $VAR(@) ".toList := hplain (by decide)
    have hp := quiet_inQuotes (h p (by simp [quoted]))
    simpa [text] using (hbang negated).append (hsubject.append hp)
  | values negated v vs =>
    have hsubject : Quiet "$VAR(@) in ".toList := hplain (by decide)
    have hlist := quiet_join h
    simpa [text, quoted] using (hbang negated).append (hsubject.append hlist)
  | command c =>
    have hexec : Quiet "exec ".toList := hplain (by decide)
    simpa [text] using hexec.append (quiet_inQuotes (h c (by simp [quoted])))

/-- An expression with a documented condition is read as its constraint, with the reason if there is
one. -/
theorem ofExpression_text (h : ∀ t ∈ c.quoted, Quotable t) {reason : Option String}
    (hreason : ∀ r ∈ reason, r ≠ "" ∧ '\x22' ∉ r.toList) :
    Constraint.ofExpression (c.text ++ reasonText reason) = c.constraint.withReason reason := by
  have hsplit : splitReason (c.text ++ reasonText reason).toList = (c.text.toList, reason) := by
    rw [String.toList_append]
    cases reason with
    | none =>
      rw [reasonText, String.toList_empty, List.append_nil, splitReason, (quiet h).1]
      simp only [(framed h).trimChars]
    | some r =>
      obtain ⟨hne, hquote⟩ := hreason r rfl
      rw [splitReason_reason (by rw [(quiet h).2]) hne hquote, (framed h).trimChars]
  rw [Constraint.ofExpression, hsplit]
  simp only [ofCondition_text h]

end Documented

end Expression

/-! ## 4. Echoed words -/

namespace Text

/-- Words with a blank between each two neighbours are found again. -/
theorem words_join {ws : List String} (h : ∀ w ∈ ws, w ≠ "" ∧ ∀ c ∈ w.toList, isBlank c = false) :
    words (join " " ws).toList = ws.map String.toList := by
  induction ws with
  | nil => rfl
  | cons w ws ih =>
    obtain ⟨hne, hblank⟩ := h w List.mem_cons_self
    have hws := ih (fun v hv => h v (List.mem_cons_of_mem _ hv))
    have hw : w.toList.isEmpty = false := by simpa using hne
    cases ws with
    | nil => simp [words, splitWhere_of_forall hblank, hne]
    | cons v ws =>
      have htext : (join " " (w :: v :: ws)).toList =
          w.toList ++ ' ' :: (join " " (v :: ws)).toList := by
        simp [join_cons_cons]
      rw [words] at hws
      rw [words, htext, splitWhere_append hblank (by decide), List.filter_cons, hw, hws]
      rfl

end Text

namespace Constraint

open Expression Text

/-- A word that an `echo` lists: without blanks and characters that a shell reads, and without
quotes at its ends. -/
def Echoed (w : String) : Prop :=
  w ≠ "" ∧ (∀ c ∈ w.toList, isBlank c = false ∧ c ∉ shellChars) ∧
    (∀ c ∈ w.toList.head?, c ≠ '\x22' ∧ c ≠ '\x27') ∧
    ∀ c ∈ w.toList.getLast?, c ≠ '\x22' ∧ c ≠ '\x27'

/-- The words without the options `-n` before others. -/
def withoutOptions : List String → List String
  | "-n" :: w :: ws => withoutOptions (w :: ws)
  | ws => ws

section Echoed

variable {w : String} {ws : List String}

theorem withoutOptions_ne_nil (h : ws ≠ []) : withoutOptions ws ≠ [] := by
  fun_induction withoutOptions with
  | case1 w ws ih => exact ih (by simp)
  | case2 => exact h

theorem mem_of_mem_withoutOptions (h : w ∈ withoutOptions ws) : w ∈ ws := by
  fun_induction withoutOptions with
  | case1 v ws ih => exact List.mem_cons_of_mem _ (ih h)
  | case2 => exact h

/-- Words without blanks are found again between blanks. -/
theorem words_join_echoed (h : ∀ w ∈ ws, Echoed w) :
    words (join " " ws).toList = ws.map String.toList :=
  words_join fun w hw => ⟨(h w hw).1, fun c hc => ((h w hw).2.1 c hc).1⟩

/-- The options in front are dropped, and only those. -/
theorem dropOptions_join (h : ∀ w ∈ ws, Echoed w) :
    dropOptions (join " " ws).toList = (join " " (withoutOptions ws)).toList := by
  fun_induction withoutOptions with
  | case1 w ws ih =>
    have htext : (join " " ("-n" :: w :: ws)).toList =
        '-' :: 'n' :: ' ' :: (join " " (w :: ws)).toList := by
      simp [join_cons_cons]
    rw [htext, dropOptions, ih (fun v hv => h v (List.mem_cons_of_mem _ hv))]
  | case2 ws hnot =>
    -- what starts with the option has it as its first word, and another word behind it
    refine dropOptions.eq_2 _ ?_
    intro rest htext
    have hwords := words_join_echoed h
    have hsplit : splitWhere isBlank (['-', 'n'] ++ ' ' :: rest) =
        ['-', 'n'] :: splitWhere isBlank rest :=
      splitWhere_append (by simp [isBlank]) (by simp [isBlank]) rest
    rw [htext, words, show '-' :: 'n' :: ' ' :: rest = ['-', 'n'] ++ ' ' :: rest from rfl, hsplit]
      at hwords
    cases ws with
    | nil => cases htext
    | cons w ws =>
      have hw : w = "-n" := by
        have hlist : ['-', 'n'] = w.toList := (List.cons.inj hwords).1
        rw [← String.ofList_toList (s := w), ← hlist]
      cases ws with
      | nil =>
        subst hw
        cases htext
      | cons v ws => exact hnot v ws (by rw [hw])

theorem stripQuotes_echoed (h : Echoed w) : stripQuotes w.toList = w.toList := by
  obtain ⟨-, -, hhead, hlast⟩ := h
  have hstart : w.toList.dropWhile (fun c => c == '\x22' || c == '\x27') = w.toList :=
    dropWhile_of_head? (by simpa using hhead)
  have hend : w.toList.reverse.dropWhile (fun c => c == '\x22' || c == '\x27') =
      w.toList.reverse :=
    dropWhile_of_head? (by simpa using hlast)
  simp only [stripQuotes, hstart, hend, List.reverse_reverse]

theorem framed_join (hne : ws ≠ []) (h : ∀ w ∈ ws, Echoed w) : Framed (join " " ws).toList := by
  induction ws with
  | nil => exact absurd rfl hne
  | cons w ws ih =>
    obtain ⟨hw, hchars, -⟩ := h w List.mem_cons_self
    have hnil : w.toList ≠ [] := by simpa using hw
    have hword : Framed w.toList := by
      constructor
      · obtain ⟨c, cs, hcons⟩ := List.exists_cons_of_ne_nil hnil
        exact ⟨c, cs, hcons, (hchars c (by simp [hcons])).1⟩
      · have hlast := List.getLast_mem hnil
        exact ⟨_, _, (List.dropLast_append_getLast hnil).symm, (hchars _ hlast).1⟩
    cases ws with
    | nil => exact hword
    | cons v ws =>
      have hrest := ih (by simp) (fun u hu => h u (List.mem_cons_of_mem _ hu))
      simpa [join_cons_cons] using hword.append hrest [' ']

/-- The words of an `echo` are found again behind its options. -/
theorem echoedWords?_join (hne : ws ≠ []) (h : ∀ w ∈ ws, Echoed w) :
    echoedWords? ("echo ".toList ++ (join " " ws).toList) = some (withoutOptions ws) := by
  have hrest : ∀ w ∈ withoutOptions ws, Echoed w := fun w hw => h w (mem_of_mem_withoutOptions hw)
  have hframed := framed_join (withoutOptions_ne_nil hne) hrest
  have hplain : (join " " (withoutOptions ws)).toList.any shellChars.contains = false := by
    rw [List.any_eq_false]
    intro c hc
    rcases mem_join hc with hblank | ⟨w, hw, hc⟩
    · obtain rfl : c = ' ' := by simpa using hblank
      decide
    · simpa using ((hrest w hw).2.1 c hc).2
  have hstrip : ((withoutOptions ws).map String.toList).map stripQuotes =
      (withoutOptions ws).map String.toList := by
    rw [List.map_map]
    exact List.map_congr_left fun w hw => stripQuotes_echoed (hrest w hw)
  have hfilter : ((withoutOptions ws).map String.toList).filter (!·.isEmpty) =
      (withoutOptions ws).map String.toList := by
    rw [List.filter_eq_self]
    intro cs hcs
    obtain ⟨w, hw, rfl⟩ := List.mem_map.mp hcs
    simpa using (hrest w hw).1
  have hempty : ((withoutOptions ws).map String.toList).isEmpty = false := by
    simpa using withoutOptions_ne_nil hne
  rw [echoedWords?, dropStart?_append, Option.bind_eq_bind, Option.bind_some, dropOptions_join h,
    hframed.trimChars]
  simp only [hplain, words_join_echoed hrest, hstrip, hfilter, hempty, Bool.false_eq_true, if_false,
    List.map_map]
  simp [Function.comp_def]

/-- An `echo` of words is read as the list of its words. -/
theorem ofAllowed_echo (hne : ws ≠ []) (h : ∀ w ∈ ws, Echoed w) :
    ofAllowed ("echo " ++ join " " ws) = .allowedValues (withoutOptions ws) none := by
  have hecho := framed_singleton (show isBlank 'e' = false by decide)
  have hframed : Framed ("echo ".toList ++ (join " " ws).toList) := by
    simpa using hecho.append (framed_join hne h) "cho ".toList
  rw [ofAllowed, String.toList_append, hframed.trimChars, echoedWords?_join hne h]

end Echoed

/-- **What is written in the documented syntax is read as what it says.** Of the words of an `echo`
the options `-n` in front are no values, as long as another word follows. -/
theorem documented_inverts :
    (∀ (c : Documented) (reason : Option String), (∀ t ∈ c.quoted, Quotable t) →
      (∀ r ∈ reason, r ≠ "" ∧ '\x22' ∉ r.toList) →
      ofExpression (c.text ++ reasonText reason) = c.constraint.withReason reason) ∧
    ∀ ws : List String, ws ≠ [] → (∀ w ∈ ws, Echoed w) →
      ofAllowed ("echo " ++ join " " ws) = .allowedValues (withoutOptions ws) none := by
  constructor
  · intro c reason h hreason
    exact Documented.ofExpression_text h hreason
  · intro ws hne h
    exact ofAllowed_echo hne h

theorem documented_inverts_listed :
    ofExpression ("! $VAR(@) in \"a;b\", \"c\"" ++ " ; \"one; or two\"") =
        .disallowedValues ["a;b", "c"] (some "one; or two") ∧
      ofAllowed "echo -n on off" = .allowedValues ["on", "off"] none := by
  constructor
  · have hquoted : ∀ t ∈ (Documented.values true "a;b" ["c"]).quoted, Quotable t := by
      simp [Documented.quoted, Quotable]
    have h := documented_inverts.1 (.values true "a;b" ["c"]) (some "one; or two") hquoted (by simp)
    simpa [Documented.text, Documented.constraint, bang, inQuotes, reasonText, ofValues,
      join_cons_cons, withReason] using h
  · have hwords : ∀ w ∈ ["-n", "on", "off"], Echoed w := by
      simp [Echoed, shellChars, isBlank]
    have h := documented_inverts.2 ["-n", "on", "off"] (by simp) hwords
    simpa [withoutOptions, join_cons_cons] using h

/-- An option is a word like any other, but is not listed. -/
theorem echoed_option_lost : (∀ w ∈ ["-n", "a"], Echoed w) ∧
    ofAllowed ("echo " ++ join " " ["-n", "a"]) ≠ .allowedValues ["-n", "a"] none := by
  constructor
  · simp [Echoed, shellChars, isBlank]
  · decide +kernel

end Constraint

end RouterConfig
