/-
RouterConfig.Proofs.Schema.Shapes — the conditions that a grammar writes,
and what each of them is read as.

`Shape.Writes` says which texts write a comparison, a pattern or a list of
values. A text that writes a shape is read as the constraint of that shape
(`ofCondition_writes`). The lemmas before that are stated with whatever
may follow, so that they also serve where a condition is only the first
part of a longer one.
-/
import RouterConfig.Proofs.Text.Numerals
import RouterConfig.Schema.Expression

namespace RouterConfig

/-! ## 1. Starts of a text -/

namespace Text

theorem dropStart?_append (start cs : List Char) : dropStart? start (start ++ cs) = some cs := by
  simp [dropStart?]

theorem dropStart?_cons_ne {w c : Char} (h : w ≠ c) (ws cs : List Char) :
    dropStart? (w :: ws) (c :: cs) = none := by
  simp [dropStart?, h]

end Text

namespace Expression

open Text

/-- Blanks before a character are passed over, if there is one at least. -/
theorem afterBlanks?_gap {gap : List Char} (h : Gap gap) (hne : gap ≠ []) {c : Char}
    (hc : isBlank c = false) (cs : List Char) : afterBlanks? (gap ++ c :: cs) = some (c :: cs) := by
  cases gap with
  | nil => exact absurd rfl hne
  | cons b gap =>
    have hb : isBlank b = true := h b List.mem_cons_self
    have htrim := trimStart_gap h (c :: cs)
    rw [trimStart_cons hc] at htrim
    rw [List.cons_append] at htrim ⊢
    rw [afterBlanks?, if_pos hb, htrim]

theorem afterWord?_gap (word : List Char) {gap : List Char} (h : Gap gap) (hne : gap ≠ [])
    {c : Char} (hc : isBlank c = false) (cs : List Char) :
    afterWord? word (word ++ (gap ++ c :: cs)) = some (c :: cs) := by
  rw [afterWord?, dropStart?_append]
  exact afterBlanks?_gap h hne hc cs

theorem afterWord?_cons_ne {w c : Char} (h : w ≠ c) (ws cs : List Char) :
    afterWord? (w :: ws) (c :: cs) = none := by
  rw [afterWord?, dropStart?_cons_ne h]
  rfl

/-- What starts like the value under check is no pattern. -/
theorem readPattern?_subject {cs ds : List Char} {negated : Bool}
    (h : readNegation cs = (negated, '$' :: ds)) : readPattern? cs = none := by
  simp [readPattern?, h, afterWord?_cons_ne]

/-- What starts like a pattern is no list. -/
theorem readValues?_pattern {cs ds : List Char} {negated : Bool}
    (h : readNegation cs = (negated, 'p' :: ds)) : readValues? cs = none := by
  simp [readValues?, h, subject, afterWord?_cons_ne]

theorem readCommand?_cons_ne {c : Char} (h : c ≠ 'e') (cs : List Char) :
    readCommand? (c :: cs) = none := by
  simp [readCommand?, afterWord?_cons_ne (Ne.symm h)]

/-! ## 2. Shapes -/

/-- How a comparison is written. -/
def Comparison.sign : Comparison → List Char
  | .atLeast => ['>', '=']
  | .above => ['>']
  | .atMost => ['<', '=']
  | .below => ['<']

/-- What a comparison with a number says, as bounds that are included. -/
def Comparison.bounds (n : Int64) : Comparison → Bounds
  | .atLeast => { min := some n }
  | .above => { min := some (successor n) }
  | .atMost => { max := some n }
  | .below => { max := some (predecessor n) }

/-- A condition of one of the shapes that can be checked here. -/
inductive Shape where
  | comparison (comparison : Comparison) (bound : Int64)
  | pattern (negated : Bool) (text : String)
  | values (negated : Bool) (listed : List String)
  deriving DecidableEq, Repr

/-- What stands before a condition to negate it, or nothing. -/
inductive Negation : Bool → List Char → Prop
  | absent : Negation false []
  | bang {gap : List Char} : Gap gap → Negation true ('!' :: gap)

/-- Values between quotes, with any text without quotes between them. -/
inductive Listing : List String → List Char → Prop
  | one {v : String} : '\x22' ∉ v.toList → Listing [v] ('\x22' :: (v.toList ++ ['\x22']))
  | more {v : String} {vs : List String} {between cs : List Char} :
      '\x22' ∉ v.toList → '\x22' ∉ between → Listing vs cs →
      Listing (v :: vs) ('\x22' :: (v.toList ++ '\x22' :: (between ++ cs)))

/-- Which texts write a shape. A number has ASCII digits after an optional minus sign. -/
inductive Shape.Writes : Shape → List Char → Prop
  | comparison {c : Comparison} {n : Int64} {gap gap' numeral : List Char} :
      Gap gap → Gap gap' → readInt64 numeral = some n → numeral.head? ≠ some '+' →
      Writes (.comparison c n) (subject ++ (gap ++ (c.sign ++ (gap' ++ numeral))))
  | pattern {negated : Bool} {p : String} {bang gap gap' : List Char} :
      Negation negated bang → Gap gap → gap ≠ [] → Gap gap' → gap' ≠ [] →
      Writes (.pattern negated p) (bang ++ ("pattern".toList ++ (gap ++ (subject ++
        (gap' ++ '\x22' :: (p.toList ++ ['\x22']))))))
  | values {negated : Bool} {vs : List String} {bang gap gap' listing : List Char} :
      Negation negated bang → Gap gap → gap ≠ [] → Gap gap' → gap' ≠ [] → Listing vs listing →
      Writes (.values negated vs) (bang ++ (subject ++ (gap ++ ("in".toList ++
        (gap' ++ listing)))))

end Expression

namespace Constraint

/-- A pattern that must match, or that must not. -/
def ofPattern (negated : Bool) (p : String) : Constraint :=
  if negated then .negatedPattern p none else .pattern p none

/-- A list of the values that are allowed, or of those that are not. -/
def ofValues (negated : Bool) (values : List String) : Constraint :=
  if negated then .disallowedValues values none else .allowedValues values none

/-- A range between bounds. -/
def ofBounds (bounds : Expression.Bounds) : Constraint := .range bounds.min bounds.max none

end Constraint

namespace Expression

open Text

/-- What a shape asks of a value. -/
def Shape.constraint : Shape → Constraint
  | .comparison c n => .ofBounds (c.bounds n)
  | .pattern negated p => .ofPattern negated p
  | .values negated vs => .ofValues negated vs

/-! ## 3. Comparisons -/

/-- A sign is read as its comparison. Behind `<` or `>` no `=` may follow, for that would be another
sign. -/
theorem readComparison?_sign (c : Comparison) {cs : List Char} (h : cs.head? ≠ some '=') :
    readComparison? (c.sign ++ cs) = some (c, cs) := by
  cases c with
  | atLeast => rfl
  | atMost => rfl
  | above =>
    cases cs with
    | nil => rfl
    | cons d cs =>
      have hd : d ≠ '=' := by simpa using h
      simp [Comparison.sign, readComparison?, hd]
  | below =>
    cases cs with
    | nil => rfl
    | cons d cs =>
      have hd : d ≠ '=' := by simpa using h
      simp [Comparison.sign, readComparison?, hd]

/-- Where a number may end: no decimal digit of any script follows it. -/
def Stops (cs : List Char) : Prop := ∀ c ∈ cs.head?, Unicode.isDecimal c = false

theorem isDecimal_of_isDigit {c : Char} (h : c.isDigit = true) : Unicode.isDecimal c = true := by
  have hascii : c.toNat < 0x80 := by
    simp only [Char.isDigit, Bool.and_eq_true, decide_eq_true_eq, UInt32.le_iff_toNat_le] at h
    have : c.toNat ≤ 57 := h.2
    omega
  rw [Unicode.isDecimal_of_ascii hascii, h]

theorem span_digits {digits rest : List Char} (hdigits : ∀ c ∈ digits, c.isDigit = true)
    (hstops : Stops rest) : (digits ++ rest).takeWhile Unicode.isDecimal = digits ∧
      (digits ++ rest).dropWhile Unicode.isDecimal = rest := by
  have hdecimal : ∀ c ∈ digits, Unicode.isDecimal c = true := by
    intro c hc
    exact isDecimal_of_isDigit (hdigits c hc)
  rw [List.takeWhile_append_of_pos hdecimal, List.dropWhile_append_of_pos hdecimal]
  cases rest with
  | nil => simp
  | cons c rest =>
    have hc := hstops c rfl
    simp [hc]

/-- A numeral is read to its end. -/
theorem readBound?_numeral {numeral rest : List Char} {n : Int64}
    (hread : readInt64 numeral = some n) (hplus : numeral.head? ≠ some '+')
    (hstops : Stops rest) : readBound? (numeral ++ rest) = some (numeral, rest) := by
  obtain ⟨digits, hne, hdigits, hform⟩ := digits_of_readInt64 hread hplus
  obtain ⟨htake, hdrop⟩ := span_digits hdigits hstops
  have hempty : digits.isEmpty = false := by simpa using hne
  rcases hform with rfl | rfl
  case inl =>
    cases numeral with
    | nil => exact absurd rfl hne
    | cons c cs =>
      have hc : c ≠ '-' := by
        rintro rfl
        exact absurd (hdigits '-' List.mem_cons_self) (by decide)
      unfold readBound?
      split
      case h_1 sign unsigned heq =>
        split at heq
        case h_1 hminus => exact absurd (List.cons.inj hminus).1 hc
        case h_2 =>
          obtain ⟨rfl, rfl⟩ := Prod.mk.inj heq
          simp only [htake, hdrop, hempty, List.nil_append, Bool.false_eq_true, if_false]
  case inr =>
    simp only [readBound?, List.cons_append, htake, hdrop, hempty, List.nil_append,
      Bool.false_eq_true, if_false]

/-- A comparison is read as it was written, whatever stops it. -/
theorem readTerm?_written {c : Comparison} {gap gap' numeral : List Char} {n : Int64}
    (hgap : Gap gap) (hgap' : Gap gap') (hread : readInt64 numeral = some n)
    (hplus : numeral.head? ≠ some '+') {rest : List Char} (hstops : Stops rest) :
    readTerm? (subject ++ (gap ++ (c.sign ++ (gap' ++ (numeral ++ rest))))) =
      some ((c, numeral), rest) := by
  obtain ⟨digits, hne, hdigits, hform⟩ := digits_of_readInt64 hread hplus
  -- a number starts with a minus sign or a digit
  obtain ⟨d, ds, rfl, hblank, hequals⟩ : ∃ d ds, numeral = d :: ds ∧ isBlank d = false ∧
      d ≠ '=' := by
    rcases hform with rfl | rfl
    case inl =>
      obtain ⟨d, ds, rfl⟩ := List.exists_cons_of_ne_nil hne
      have hd := hdigits d List.mem_cons_self
      refine ⟨d, ds, rfl, isBlank_of_isDigit hd, ?_⟩
      rintro rfl
      exact absurd hd (by decide)
    case inr => exact ⟨'-', digits, rfl, by decide, by decide⟩
  have hsign : ∀ cs : List Char, trimStart (c.sign ++ cs) = c.sign ++ cs := by
    intro cs
    cases c <;> exact trimStart_cons (by decide) _
  have hnext : (gap' ++ d :: (ds ++ rest)).head? ≠ some '=' := by
    cases gap' with
    | nil => simpa using hequals
    | cons b gap' =>
      have hb := hgap' b List.mem_cons_self
      intro heq
      obtain rfl : b = '=' := by simpa using heq
      exact absurd hb (by decide)
  have htrim : trimStart (gap' ++ d :: (ds ++ rest)) = d :: (ds ++ rest) := by
    rw [trimStart_gap hgap', trimStart_cons hblank]
  have hbound := readBound?_numeral hread hplus hstops
  rw [List.cons_append] at hbound ⊢
  simp [readTerm?, dropStart?_append, trimStart_gap hgap, hsign, readComparison?_sign c hnext,
    htrim, hbound]

/-! ### The terms of a conjunction -/

theorem scanTerms_nil (fuel : Nat) : scanTerms fuel [] = ([], []) := by
  cases fuel <;> rfl

theorem scanTerms_term {cs rest : List Char} {term : Comparison × List Char}
    (h : readTerm? cs = some (term, rest)) (fuel : Nat) : scanTerms (fuel + 1) cs =
      (term :: (scanTerms fuel rest).1, (scanTerms fuel rest).2) := by
  cases cs with
  | nil => cases h
  | cons c cs => simp only [scanTerms, h]

theorem scanTerms_other {c : Char} {cs : List Char} (h : readTerm? (c :: cs) = none) (fuel : Nat) :
    scanTerms (fuel + 1) (c :: cs) = ((scanTerms fuel cs).1, c :: (scanTerms fuel cs).2) := by
  simp only [scanTerms, h]

theorem readTerm?_cons_ne {c : Char} (h : c ≠ '$') (cs : List Char) :
    readTerm? (c :: cs) = none := by
  rw [readTerm?, subject, dropStart?_cons_ne (Ne.symm h)]
  rfl

/-- What may stand between comparisons. -/
def Joins (cs : List Char) : Prop := ∀ c ∈ cs, joinsTerms c = true

/-- What joins comparisons is passed over. -/
theorem scanTerms_joins {xs : List Char} (h : Joins xs) (fuel : Nat) (ys : List Char) :
    scanTerms (xs.length + fuel) (xs ++ ys) =
      ((scanTerms fuel ys).1, xs ++ (scanTerms fuel ys).2) := by
  induction xs with
  | nil => simp
  | cons c xs ih =>
    have hc : c ≠ '$' := by
      rintro rfl
      exact absurd (h '$' List.mem_cons_self) (by decide)
    have hlength : (c :: xs).length + fuel = xs.length + fuel + 1 := by
      simp only [List.length_cons]
      omega
    rw [hlength, List.cons_append, scanTerms_other (readTerm?_cons_ne hc _),
      ih (fun d hd => h d (List.mem_cons_of_mem _ hd))]
    rfl

theorem readBounds?_of_joins {cs residue : List Char} {term : Comparison × List Char}
    {terms : List (Comparison × List Char)}
    (hscan : scanTerms cs.length cs = (term :: terms, residue)) (h : Joins residue) :
    readBounds? cs = some ((term :: terms).foldl Bounds.narrow {}) := by
  have hall : residue.all joinsTerms = true := List.all_eq_true.mpr h
  rw [readBounds?, hscan]
  simp [hall]

/-- A character that joins no comparisons is left over, and then nothing is read. -/
theorem readBounds?_eq_none {c : Char} {cs : List Char} (hc : joinsTerms c = false)
    (h : c ∈ (scanTerms cs.length cs).2) : readBounds? cs = none := by
  have hall : (scanTerms cs.length cs).2.all joinsTerms = false :=
    List.all_eq_false.mpr ⟨c, h, by simp [hc]⟩
  simp only [readBounds?, hall, Bool.and_false, Bool.false_eq_true, if_false]

/-- Bounds of which the later ones replace the earlier ones of the same side. -/
def Bounds.override (earlier later : Bounds) : Bounds :=
  ⟨later.min.or earlier.min, later.max.or earlier.max⟩

@[simp] theorem Bounds.override_empty (bounds : Bounds) : override {} bounds = bounds := by
  simp [override]

/-- A term narrows the bounds to its own on its side. -/
theorem Bounds.narrow_eq {numeral : List Char} {n : Int64} (h : readInt64 numeral = some n)
    (bounds : Bounds) (c : Comparison) :
    bounds.narrow (c, numeral) = bounds.override (c.bounds n) := by
  cases c <;> simp [narrow, h, override, Comparison.bounds]

section Comparison

variable {c c' : Comparison} {n n' : Int64} {cs cs' : List Char}

theorem Shape.Writes.readTerm? (h : Writes (.comparison c n) cs) :
    ∃ numeral, readInt64 numeral = some n ∧ ∀ rest, Stops rest →
      readTerm? (cs ++ rest) = some ((c, numeral), rest) := by
  cases h with
  | @comparison _ _ gap gap' numeral hgap hgap' hread hplus =>
    refine ⟨numeral, hread, ?_⟩
    intro rest hstops
    have := readTerm?_written (c := c) hgap hgap' hread hplus hstops
    simpa only [List.append_assoc] using this

theorem Shape.Writes.length_pos (h : Writes (.comparison c n) cs) : 0 < cs.length := by
  cases h
  simp [subject]

theorem stops_nil : Stops [] := by
  intro c hc
  cases hc

/-- All of a scan after a comparison is the scan of the rest. -/
theorem Shape.Writes.scanTerms (h : Writes (.comparison c n) cs) :
    ∃ numeral, readInt64 numeral = some n ∧ ∀ rest, Stops rest → ∃ fuel, rest.length ≤ fuel ∧
      scanTerms (cs ++ rest).length (cs ++ rest) =
        ((c, numeral) :: (Expression.scanTerms fuel rest).1,
          (Expression.scanTerms fuel rest).2) := by
  obtain ⟨numeral, hread, hterm⟩ := h.readTerm?
  refine ⟨numeral, hread, ?_⟩
  intro rest hstops
  have hpos := h.length_pos
  obtain ⟨fuel, hfuel⟩ := Nat.exists_eq_add_of_lt hpos
  refine ⟨fuel + rest.length, by omega, ?_⟩
  have hlength : (cs ++ rest).length = fuel + rest.length + 1 := by
    rw [List.length_append]
    omega
  rw [hlength, scanTerms_term (hterm rest hstops)]

/-- Comparisons with numbers, and nothing else than what may stand around them. -/
inductive Conjunction : List (Comparison × Int64) → List Char → Prop
  | done {cs : List Char} : Joins cs → Conjunction [] cs
  | term {c : Comparison} {n : Int64} {terms : List (Comparison × Int64)}
      {between cs rest : List Char} : Joins between → Shape.Writes (.comparison c n) cs →
      Stops rest → Conjunction terms rest → Conjunction ((c, n) :: terms) (between ++ (cs ++ rest))

/-- A scan finds the comparisons of a conjunction in their order. -/
theorem Conjunction.scanTerms {terms : List (Comparison × Int64)} (h : Conjunction terms cs)
    {fuel : Nat} (hfuel : cs.length ≤ fuel) : ∃ found residue,
      Expression.scanTerms fuel cs = (found, residue) ∧ Joins residue ∧
      List.Forall₂ (fun term text => text.1 = term.1 ∧ readInt64 text.2 = some term.2)
        terms found := by
  induction h generalizing fuel with
  | @done cs hjoins =>
    obtain ⟨more, rfl⟩ := Nat.exists_eq_add_of_le hfuel
    have hscan := scanTerms_joins hjoins more []
    rw [scanTerms_nil, List.append_nil] at hscan
    exact ⟨[], cs, hscan, hjoins, .nil⟩
  | @term c n terms between cs rest hjoins hwrites hstops _ ih =>
    obtain ⟨numeral, hread, hterm⟩ := hwrites.readTerm?
    have hpos := hwrites.length_pos
    simp only [List.length_append] at hfuel
    obtain ⟨more, rfl⟩ : ∃ more, fuel = between.length + (more + 1) :=
      ⟨fuel - between.length - 1, by omega⟩
    obtain ⟨found, residue, hscan, hresidue, hfound⟩ := @ih more (by omega)
    refine ⟨(c, numeral) :: found, between ++ residue, ?_, ?_, .cons ⟨rfl, hread⟩ hfound⟩
    · rw [scanTerms_joins hjoins, scanTerms_term (hterm rest hstops), hscan]
    · intro d hd
      exact (List.mem_append.mp hd).elim (hjoins d) (hresidue d)

/-- The bounds that comparisons put one after the other. -/
def boundsOf (terms : List (Comparison × Int64)) : Bounds :=
  terms.foldl (fun bounds term => bounds.override (term.1.bounds term.2)) {}

theorem foldl_narrow {terms : List (Comparison × Int64)} {found : List (Comparison × List Char)}
    (h : List.Forall₂ (fun term text => text.1 = term.1 ∧ readInt64 text.2 = some term.2)
      terms found) (bounds : Bounds) : found.foldl Bounds.narrow bounds =
      terms.foldl (fun bounds term => bounds.override (term.1.bounds term.2)) bounds := by
  induction h generalizing bounds with
  | nil => rfl
  | @cons term text _ _ hterm _ ih =>
    obtain ⟨comparison, numeral⟩ := text
    obtain ⟨rfl, hread⟩ := hterm
    rw [List.foldl_cons, List.foldl_cons, Bounds.narrow_eq hread, ih]

/-- A conjunction of comparisons is read as the bounds that it puts. -/
theorem Conjunction.readBounds? {terms : List (Comparison × Int64)} (h : Conjunction terms cs)
    (hne : terms ≠ []) : readBounds? cs = some (boundsOf terms) := by
  obtain ⟨found, residue, hscan, hresidue, hfound⟩ := h.scanTerms (Nat.le_refl _)
  cases hfound with
  | nil => exact absurd rfl hne
  | cons hterm hterms =>
    rw [readBounds?_of_joins hscan hresidue, foldl_narrow (.cons hterm hterms), boundsOf]

theorem joins_nil : Joins [] := by
  intro d hd
  cases hd

/-- One comparison is read as its bounds. -/
theorem readBounds?_comparison (h : Shape.Writes (.comparison c n) cs) :
    readBounds? cs = some (c.bounds n) := by
  have hconj := Conjunction.term joins_nil h stops_nil (.done joins_nil)
  rw [List.nil_append, List.append_nil] at hconj
  simpa [boundsOf] using hconj.readBounds? (by simp)

/-- Two comparisons are read as the bounds of the first, overridden by those of the second. -/
theorem readBounds?_comparisons (h : Shape.Writes (.comparison c n) cs)
    (h' : Shape.Writes (.comparison c' n') cs') {between : List Char} (hjoins : Joins between)
    (hstops : Stops (between ++ cs')) :
    readBounds? (cs ++ (between ++ cs')) = some ((c.bounds n).override (c'.bounds n')) := by
  have hlast := Conjunction.term hjoins h' stops_nil (.done joins_nil)
  rw [List.append_nil] at hlast
  have hconj := Conjunction.term joins_nil h hstops hlast
  rw [List.nil_append] at hconj
  simpa [boundsOf] using hconj.readBounds? (by simp)

theorem mem_residue {xs : List Char} (hjoins : Joins xs) {d : Char} {ds : List Char}
    (hterm : Expression.readTerm? (d :: ds) = none) {fuel : Nat} (hfuel : xs.length < fuel) :
    d ∈ (scanTerms fuel (xs ++ d :: ds)).2 := by
  obtain ⟨more, rfl⟩ := Nat.exists_eq_add_of_lt hfuel
  rw [Nat.add_assoc, scanTerms_joins hjoins, scanTerms_other hterm]
  simp

/-- A text is no conjunction where something else than a comparison starts in it. -/
theorem readBounds?_stuck {d : Char} {ds : List Char} (hd : joinsTerms d = false)
    (hterm : Expression.readTerm? (d :: ds) = none) : readBounds? (d :: ds) = none :=
  readBounds?_eq_none hd
    (mem_residue joins_nil hterm (Nat.zero_lt_succ ds.length))

theorem readBounds?_comparison_stuck (h : Shape.Writes (.comparison c n) cs) {xs : List Char}
    (hjoins : Joins xs) {d : Char} {ds : List Char} (hd : joinsTerms d = false)
    (hterm : Expression.readTerm? (d :: ds) = none) (hstops : Stops (xs ++ d :: ds)) :
    readBounds? (cs ++ (xs ++ d :: ds)) = none := by
  obtain ⟨numeral, -, hscan⟩ := h.scanTerms
  obtain ⟨fuel, hfuel, hscan⟩ := hscan _ hstops
  refine readBounds?_eq_none hd ?_
  rw [hscan]
  refine mem_residue hjoins hterm ?_
  simp only [List.length_append, List.length_cons] at hfuel
  omega

/-- A condition that starts with a comparison is a conjunction of comparisons or not recognized. -/
theorem ofCondition_comparison (h : Shape.Writes (.comparison c n) cs) (rest : List Char) :
    Constraint.ofCondition (cs ++ rest) = match readBounds? (cs ++ rest) with
      | some bounds => .ofBounds bounds
      | none => .unrecognized (String.ofList (cs ++ rest)) none := by
  obtain ⟨tail, hcs⟩ : ∃ tail, cs ++ rest = '$' :: tail := by
    cases h
    exact ⟨_, rfl⟩
  have hsubject : afterWord? subject (cs ++ rest) = none ∨
      ∃ (d : Char) (ds : List Char),
        afterWord? subject (cs ++ rest) = some (d :: ds) ∧ d ≠ 'i' := by
    cases h with
    | @comparison _ _ gap gap' numeral hgap hgap' hread hplus =>
      obtain ⟨d, ds, hsign, hblank, hd⟩ : ∃ d ds, c.sign = d :: ds ∧ isBlank d = false ∧
          d ≠ 'i' := by
        cases c <;> exact ⟨_, _, rfl, by decide, by decide⟩
      rw [hsign]
      simp only [List.append_assoc, List.cons_append]
      by_cases hne : gap = []
      · left
        subst hne
        simp [afterWord?, dropStart?_append, afterBlanks?, hblank]
      · right
        exact ⟨_, _, afterWord?_gap subject hgap hne hblank _, hd⟩
  have hnegation : readNegation (cs ++ rest) = (false, cs ++ rest) := by
    rw [hcs]
    rfl
  have hpattern : readPattern? (cs ++ rest) = none :=
    readPattern?_subject (hnegation.trans (by rw [hcs]))
  have hvalues : readValues? (cs ++ rest) = none := by
    rcases hsubject with hnone | ⟨d, ds, hsome, hd⟩
    · simp [readValues?, hnegation, hnone]
    · simp [readValues?, hnegation, hsome, afterWord?_cons_ne (Ne.symm hd)]
  have hcommand : readCommand? (cs ++ rest) = none := by
    rw [hcs]
    exact readCommand?_cons_ne (by decide) tail
  simp only [Constraint.ofCondition, hpattern, hvalues, hcommand]
  rfl

end Comparison

/-! ## 4. Patterns and lists -/

/-- A negation is read off, whether there is one or not. -/
theorem readNegation_written {negated : Bool} {bang : List Char} (h : Negation negated bang)
    {c : Char} (hblank : isBlank c = false) (hc : c ≠ '!') (cs : List Char) :
    readNegation (bang ++ c :: cs) = (negated, c :: cs) := by
  cases h with
  | absent => rw [List.nil_append, readNegation.eq_2 _ (by simpa using hc)]
  | bang hgap => rw [List.cons_append, readNegation, trimStart_gap hgap, trimStart_cons hblank]

/-- Inside quotes a text goes on to the next quote. -/
theorem quotedTexts_within {text : List Char} (h : '\x22' ∉ text) (sofar rest : List Char) :
    quotedTexts (some sofar) (text ++ '\x22' :: rest) =
      (sofar.reverse ++ text) :: quotedTexts none rest := by
  induction text generalizing sofar with
  | nil => simp [quotedTexts]
  | cons c text ih =>
    obtain ⟨hc, htext⟩ : '\x22' ≠ c ∧ '\x22' ∉ text := by simpa using h
    simp [quotedTexts, Ne.symm hc, ih htext]

theorem quotedTexts_between {text : List Char} (h : '\x22' ∉ text) (rest : List Char) :
    quotedTexts none (text ++ rest) = quotedTexts none rest := by
  induction text with
  | nil => rfl
  | cons c text ih =>
    obtain ⟨hc, htext⟩ : '\x22' ≠ c ∧ '\x22' ∉ text := by simpa using h
    simp [quotedTexts, Ne.symm hc, ih htext]

/-- The values between quotes in a text. -/
def quotedValues (cs : List Char) : List String := (quotedTexts none cs).map String.ofList

/-- A list is read as its values, and what follows is read behind them. -/
theorem quotedValues_listing {vs : List String} {cs : List Char} (h : Listing vs cs)
    (rest : List Char) : quotedValues (cs ++ rest) = vs ++ quotedValues rest := by
  induction h with
  | one hv => simp [quotedValues, quotedTexts, quotedTexts_within hv]
  | more hv hbetween _ ih =>
    rw [quotedValues] at ih
    simp [quotedValues, quotedTexts, quotedTexts_within hv, quotedTexts_between hbetween, ih]

theorem Listing.head {vs : List String} {cs : List Char} (h : Listing vs cs) :
    ∃ body, cs = '\x22' :: body := by
  cases h <;> exact ⟨_, rfl⟩

theorem Listing.getLast {vs : List String} {cs : List Char} (h : Listing vs cs) :
    ∃ init, cs = init ++ ['\x22'] := by
  induction h with
  | @one v hv => exact ⟨'\x22' :: v.toList, rfl⟩
  | @more v vs between cs hv hbetween _ ih =>
    obtain ⟨init, rfl⟩ := ih
    exact ⟨'\x22' :: (v.toList ++ '\x22' :: (between ++ init)), by simp⟩

theorem Listing.ne_nil {vs : List String} {cs : List Char} (h : Listing vs cs) : vs ≠ [] := by
  cases h <;> simp

section Quoted

variable {negated : Bool} {cs : List Char}

theorem readNegation_pattern {bang : List Char} (hbang : Negation negated bang) (cs : List Char) :
    readNegation (bang ++ ("pattern".toList ++ cs)) = (negated, "pattern".toList ++ cs) :=
  readNegation_written hbang (c := 'p') (by decide) (by decide) ("attern".toList ++ cs)

theorem readNegation_subject {bang : List Char} (hbang : Negation negated bang) (cs : List Char) :
    readNegation (bang ++ (subject ++ cs)) = (negated, subject ++ cs) :=
  readNegation_written hbang (c := '$') (by decide) (by decide) (subject.tail ++ cs)

/-- A pattern goes on to the last character, which has to be a quote. -/
theorem readPattern?_writes {p : String} (h : Shape.Writes (.pattern negated p) cs)
    (rest : List Char) : readPattern? (cs ++ rest) =
      if ('\x22' :: rest).getLast? = some '\x22' then
        some (negated, p.toList ++ ('\x22' :: rest).dropLast)
      else none := by
  cases h with
  | @pattern _ _ bang gap gap' hbang hgap hne hgap' hne' =>
    simp only [List.append_assoc, List.cons_append, List.nil_append]
    have hsubject : afterWord? subject (subject ++ (gap' ++ '\x22' ::
        (p.toList ++ '\x22' :: rest))) = some ('\x22' :: (p.toList ++ '\x22' :: rest)) :=
      afterWord?_gap subject hgap' hne' (by decide) _
    have hlast : (p.toList ++ '\x22' :: rest).getLast? = ('\x22' :: rest).getLast? :=
      List.getLast?_append_cons _ _ _
    have hdrop : (p.toList ++ '\x22' :: rest).dropLast = p.toList ++ ('\x22' :: rest).dropLast :=
      List.dropLast_append_of_ne_nil (by simp)
    have hpattern : afterWord? "pattern".toList ("pattern".toList ++ (gap ++ (subject ++
        (gap' ++ '\x22' :: (p.toList ++ '\x22' :: rest))))) =
          some (subject ++ (gap' ++ '\x22' :: (p.toList ++ '\x22' :: rest))) :=
      afterWord?_gap _ hgap hne (by decide) _
    simp only [readPattern?, readNegation_pattern hbang, hpattern, Option.bind_some, hsubject,
      beq_iff_eq, hlast, hdrop]

/-- A text that starts with a pattern is a pattern up to the last quote, or not recognized. -/
theorem ofCondition_pattern {p : String} (h : Shape.Writes (.pattern negated p) cs)
    (rest : List Char) : Constraint.ofCondition (cs ++ rest) =
      if ('\x22' :: rest).getLast? = some '\x22' then
        .ofPattern negated (String.ofList (p.toList ++ ('\x22' :: rest).dropLast))
      else .unrecognized (String.ofList (cs ++ rest)) none := by
  have hread := readPattern?_writes h rest
  split
  case isTrue hquote =>
    rw [if_pos hquote] at hread
    rw [Constraint.ofCondition, hread]
    cases negated <;> rfl
  case isFalse hquote =>
    rw [if_neg hquote] at hread
    have hvalues : readValues? (cs ++ rest) = none := by
      cases h with
      | pattern hbang =>
        simp only [List.append_assoc]
        exact readValues?_pattern (readNegation_pattern hbang _)
    -- the first character, a bang or the `p`, starts neither a command nor a comparison
    obtain ⟨d, ds, hcons, hd⟩ : ∃ d ds, cs ++ rest = d :: ds ∧ (d = '!' ∨ d = 'p') := by
      cases h with
      | pattern hbang =>
        cases hbang with
        | absent => exact ⟨'p', _, rfl, .inr rfl⟩
        | bang => exact ⟨'!', _, rfl, .inl rfl⟩
    rw [hcons] at hread hvalues ⊢
    have hcommand : readCommand? (d :: ds) = none :=
      readCommand?_cons_ne (by rcases hd with rfl | rfl <;> decide) ds
    have hbounds : readBounds? (d :: ds) = none := by
      refine readBounds?_stuck ?_ (readTerm?_cons_ne ?_ ds)
      · rcases hd with rfl | rfl <;> decide
      · rcases hd with rfl | rfl <;> decide
    simp only [Constraint.ofCondition, hread, hvalues, hcommand, hbounds]

/-- A list goes on with all that stands between quotes in the rest of the text. -/
theorem ofCondition_values {vs : List String} (h : Shape.Writes (.values negated vs) cs)
    (rest : List Char) :
    Constraint.ofCondition (cs ++ rest) = .ofValues negated (vs ++ quotedValues rest) := by
  cases h with
  | @values _ _ bang gap gap' listing hbang hgap hne hgap' hne' hlisting =>
    simp only [List.append_assoc]
    have hlist := quotedValues_listing hlisting rest
    have hin : afterWord? "in".toList ("in".toList ++ (gap' ++ (listing ++ rest))) =
        some (listing ++ rest) := by
      obtain ⟨body, rfl⟩ := hlisting.head
      exact afterWord?_gap _ hgap' hne' (by decide) _
    generalize listing ++ rest = body at hlist hin ⊢
    have hsubject : afterWord? subject (subject ++ (gap ++ ("in".toList ++ (gap' ++ body)))) =
        some ("in".toList ++ (gap' ++ body)) :=
      afterWord?_gap subject hgap hne (by decide) _
    generalize gap ++ ("in".toList ++ (gap' ++ body)) = tail at hsubject ⊢
    have hnegation := readNegation_subject hbang tail
    have hpattern := readPattern?_subject hnegation
    have hvalues : readValues? (bang ++ (subject ++ tail)) =
        some (negated, vs ++ quotedValues rest) := by
      have hempty : (vs ++ quotedValues rest).isEmpty = false := by
        simp [hlisting.ne_nil]
      rw [quotedValues] at hlist
      simp only [readValues?, hnegation, hsubject, Option.bind_some, hin, hlist, hempty,
        Bool.false_eq_true, if_false]
    rw [Constraint.ofCondition, hpattern, hvalues]
    cases negated <;> rfl

end Quoted

/-! ## 5. A single shape -/

/-- **A text that writes a shape is read as the constraint of that shape.** -/
theorem ofCondition_writes {shape : Shape} {cs : List Char} (h : shape.Writes cs) :
    Constraint.ofCondition cs = shape.constraint := by
  cases shape with
  | comparison c n =>
    have hread := ofCondition_comparison h []
    rwa [List.append_nil, readBounds?_comparison h] at hread
  | pattern negated p =>
    have hread := ofCondition_pattern h []
    simpa [Shape.constraint] using hread
  | values negated vs =>
    have hread := ofCondition_values h []
    simpa [Shape.constraint, quotedValues, quotedTexts] using hread

end Expression

end RouterConfig
