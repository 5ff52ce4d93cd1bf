/-
RouterConfig.Proofs.Schema.Conjunction — what two conditions with `&&`
between them are read as, and when that is what they say.

`conjoins_iff_faithful`: the constraint that is read from two conditions
agrees with both (`Conjoins`: what passes fails neither, and what fails,
fails one of them) exactly when `Shape.Faithful` holds of them, which is
told by the shapes of the two conditions, pair by pair.

`lower_bound_lost`: of `>= 10 && >= 5` the later bound is taken, and 7
passes.

## How the proof goes

First, what a conjunction is read from: a reason is split off, and what goes
on behind the first condition is its `continuation`
(`Writes.splitReason_append`). A comparison opens no quotes, so behind one
the second condition is kept whole (`continuation_comparison`). Then one
lemma for each shape that can come first:

* Only a conjunction of comparisons is read as one, and there the later
  bound of a side replaces the earlier one (`ofCondition_comparisons`,
  `conjoins_bounds`).
* A comparison and another shape are not recognized together, so nothing is
  checked, and nothing wrong is said (`conjoins_unrecognized`).
* A pattern goes on to the last quote (`conjoins_glued`).
* Behind a list, whatever stands between quotes is taken for a further value
  (`conjoins_allowed`, `conjoins_disallowed`).

## Side conditions

Neither condition has a reason of its own, and each has one of the shapes
that a grammar writes (`Shape.Writes`); a command is not one of them.
Patterns are read by any `PatternReader`. Of a glued pattern the condition
asks that it has no reading or refuses what the two conditions refuse, and
nothing is said of which patterns do.
-/
import RouterConfig.Pattern.Reader
import RouterConfig.Proofs.Schema.Shapes

namespace RouterConfig

/-! ## 1. Where the condition of a conjunction ends -/

namespace Expression

open Text

theorem cutLast_append {scan : Scan} {xs : List Char} (h : cutLast scan xs = none)
    (ys : List Char) : cutLast scan (xs ++ ys) =
      (cutLast (xs.foldl Scan.step scan) ys).map fun (before, after) => (xs ++ before, after) := by
  induction xs generalizing scan with
  | nil => simp
  | cons c xs ih =>
    rw [cutLast] at h
    split at h
    case h_1 => cases h
    case h_2 hnone =>
      have hseparates : scan.separates c = false := by
        by_contra hc
        simp [hc] at h
      rw [List.cons_append, cutLast, ih hnone, List.foldl_cons]
      cases cutLast (xs.foldl Scan.step (scan.step c)) ys <;> simp [hseparates]

/-- A scan finds no separator exactly when each semicolon is inside quotes. -/
theorem cutLast_eq_none_iff {scan : Scan} {cs : List Char} : cutLast scan cs = none ↔
    ∀ before after, cs = before ++ ';' :: after → (before.foldl Scan.step scan).inQuote = true := by
  induction cs generalizing scan with
  | nil => simp [cutLast]
  | cons c cs ih =>
    constructor
    · intro h before after hsplit
      rw [cutLast] at h
      split at h
      case h_1 => cases h
      case h_2 hnone =>
        cases before with
        | nil =>
          obtain ⟨rfl, rfl⟩ := List.cons.inj hsplit
          simpa [Scan.separates] using h
        | cons d before =>
          obtain ⟨rfl, hrest⟩ := List.cons.inj hsplit
          exact ih.mp hnone before after hrest
    · intro h
      have hrest : cutLast (scan.step c) cs = none :=
        ih.mpr fun before after hsplit => h (c :: before) after (by rw [hsplit, List.cons_append])
      have hseparates : scan.separates c = false := by
        by_cases hc : c = ';'
        · have hin := h [] cs (by rw [hc, List.nil_append])
          rw [List.foldl_nil] at hin
          simp [Scan.separates, hin]
        · simp [Scan.separates, hc]
      rw [cutLast, hrest, hseparates]
      rfl

theorem cutLast_eq_none {cs : List Char} (h : ∀ c ∈ cs, c ≠ ';') (scan : Scan) :
    cutLast scan cs = none := by
  rw [cutLast_eq_none_iff]
  intro before after hsplit
  exact absurd rfl (h ';' (by simp [hsplit]))

/-- What stands between the conditions of a conjunction. -/
def ampersands : List Char := [' ', '&', '&', ' ']

/-- What follows the first condition of a conjunction, up to the reason that the scan finds. -/
def continuation (first second : List Char) : List Char :=
  let rest := ampersands ++ second
  trimEnd <| match cutLast (first.foldl Scan.step ⟨false, false⟩) rest with
    | some (before, _) => before
    | none => rest

namespace Shape

variable {shape first second : Shape} {cs cs' : List Char}

/-- The first character of a shape. -/
theorem Writes.head (h : shape.Writes cs) : ∃ c tail, cs = c :: tail ∧ isBlank c = false := by
  have hnegated : ∀ {negated : Bool} {bang : List Char} (d : Char) (ds : List Char),
      Negation negated bang → isBlank d = false →
      ∃ c tail, bang ++ d :: ds = c :: tail ∧ isBlank c = false := by
    intro negated bang d ds hbang hd
    cases hbang with
    | absent => exact ⟨d, ds, rfl, hd⟩
    | bang => exact ⟨'!', _, rfl, by decide⟩
  cases h with
  | comparison => exact ⟨'$', _, rfl, by decide⟩
  | pattern hbang => exact hnegated 'p' _ hbang (by decide)
  | values hbang => exact hnegated '$' _ hbang (by decide)

theorem Writes.getLast_comparison {c : Comparison} {n : Int64}
    (h : Writes (.comparison c n) cs) : ∃ d, cs.getLast? = some d ∧ d.isDigit = true := by
  cases h with
  | @comparison _ _ gap gap' numeral hgap hgap' hread hplus =>
    obtain ⟨digits, hne, hdigits, hform⟩ := digits_of_readInt64 hread hplus
    have hlast : numeral.getLast? = some (digits.getLast hne) := by
      rcases hform with rfl | rfl
      · exact List.getLast?_eq_some_getLast hne
      · rw [List.getLast?_cons_of_ne_nil hne, List.getLast?_eq_some_getLast hne]
    refine ⟨digits.getLast hne, ?_, hdigits _ (List.getLast_mem hne)⟩
    simp [List.getLast?_append, hlast]

/-- A shape ends with a digit or with a quote. -/
theorem Writes.getLast (h : shape.Writes cs) :
    ∃ init c, cs = init ++ [c] ∧ isBlank c = false := by
  obtain ⟨c, hlast, hblank⟩ : ∃ c, cs.getLast? = some c ∧ isBlank c = false := by
    cases shape with
    | comparison =>
      obtain ⟨d, hlast, hd⟩ := h.getLast_comparison
      exact ⟨d, hlast, isBlank_of_isDigit hd⟩
    | pattern =>
      cases h
      exact ⟨'\x22', by simp [List.getLast?_append, List.getLast?_cons], by decide⟩
    | values =>
      cases h with
      | values _ _ _ _ _ hlisting =>
        obtain ⟨init, rfl⟩ := hlisting.getLast
        exact ⟨'\x22', by simp [List.getLast?_append, List.getLast?_cons], by decide⟩
  obtain ⟨init, hinit⟩ := List.getLast?_eq_some_iff.mp hlast
  exact ⟨init, c, hinit, hblank⟩

theorem Writes.trimEnd_append (h : shape.Writes cs) (rest : List Char) :
    trimEnd (cs ++ rest) = cs ++ trimEnd rest := by
  obtain ⟨init, c, rfl, hblank⟩ := h.getLast
  rw [List.append_assoc, List.singleton_append, Text.trimEnd_append init hblank]
  simp

theorem Writes.trimChars_append (h : shape.Writes cs) (rest : List Char) :
    trimChars (cs ++ rest) = cs ++ trimEnd rest := by
  rw [← h.trimEnd_append, trimChars]
  obtain ⟨c, tail, rfl, hblank⟩ := h.head
  rw [List.cons_append, trimStart_cons hblank]

/-- What a conjunction is read from: the first condition, and what goes on behind it. -/
theorem Writes.splitReason_append (h : first.Writes cs)
    (hreason : cutLast ⟨false, false⟩ cs = none) :
    (splitReason (cs ++ (ampersands ++ cs'))).1 = cs ++ continuation cs cs' := by
  rw [splitReason, continuation, cutLast_append hreason]
  dsimp only
  cases cutLast (cs.foldl Scan.step ⟨false, false⟩) (ampersands ++ cs') with
  | none => exact h.trimChars_append _
  | some parts => exact h.trimChars_append parts.1

theorem Writes.splitReason_self (h : shape.Writes cs)
    (hreason : cutLast ⟨false, false⟩ cs = none) : splitReason cs = (cs, none) := by
  have htrim := h.trimChars_append []
  simp only [List.append_nil] at htrim
  rw [splitReason, hreason, htrim]
  simp [trimEnd]

/-! ### Behind a comparison -/

/-- A character that a scan for the reason passes over. -/
def Plain (c : Char) : Prop := c ≠ '\\' ∧ c ≠ '\x22' ∧ c ≠ ';'

instance (c : Char) : Decidable (Plain c) := inferInstanceAs (Decidable (_ ∧ _ ∧ _))

theorem plain_of_all {cs : List Char} (h : (cs.all fun c => decide (Plain c)) = true) :
    ∀ c ∈ cs, Plain c := by
  simpa using h

theorem foldl_step_plain (h : ∀ c ∈ cs, Plain c) :
    cs.foldl Scan.step ⟨false, false⟩ = ⟨false, false⟩ := by
  induction cs with
  | nil => rfl
  | cons c cs ih =>
    obtain ⟨hslash, hquote, -⟩ := h c List.mem_cons_self
    have hstep : Scan.step ⟨false, false⟩ c = ⟨false, false⟩ := by
      simp [Scan.step, hslash, hquote]
    rw [List.foldl_cons, hstep, ih (fun d hd => h d (List.mem_cons_of_mem _ hd))]

theorem plain_of_isBlank {c : Char} (h : isBlank c = true) : Plain c := by
  refine ⟨?_, ?_, ?_⟩ <;>
  · rintro rfl
    exact absurd h (by decide)

theorem plain_of_isDigit {c : Char} (h : c.isDigit = true) : Plain c := by
  refine ⟨?_, ?_, ?_⟩ <;>
  · rintro rfl
    exact absurd h (by decide)

theorem Writes.plain {c : Comparison} {n : Int64} (h : Writes (.comparison c n) cs) :
    ∀ d ∈ cs, Plain d := by
  cases h with
  | @comparison _ _ gap gap' numeral hgap hgap' hread hplus =>
    obtain ⟨digits, hne, hdigits, hform⟩ := digits_of_readInt64 hread hplus
    have hsubject : ∀ d ∈ subject, Plain d := plain_of_all (by decide)
    have hsign : ∀ d ∈ c.sign, Plain d := plain_of_all (by cases c <;> decide)
    have hnumeral : ∀ d ∈ numeral, Plain d := by
      intro d hd
      rcases hform with rfl | rfl
      · exact plain_of_isDigit (hdigits d hd)
      · rcases List.mem_cons.mp hd with rfl | hd
        · decide
        · exact plain_of_isDigit (hdigits d hd)
    intro d hd
    simp only [List.mem_append] at hd
    rcases hd with hd | hd | hd | hd | hd
    · exact hsubject d hd
    · exact plain_of_isBlank (hgap d hd)
    · exact hsign d hd
    · exact plain_of_isBlank (hgap' d hd)
    · exact hnumeral d hd

theorem ampersands_plain : ∀ c ∈ ampersands, Plain c := plain_of_all (by decide)

/-- A comparison opens no quotes, so that the second condition is kept whole. -/
theorem continuation_comparison {c : Comparison} {n : Int64} (h : Writes (.comparison c n) cs)
    (h' : second.Writes cs') (hreason : cutLast ⟨false, false⟩ cs' = none) :
    continuation cs cs' = ampersands ++ cs' := by
  have hbetween : cutLast ⟨false, false⟩ ampersands = none := by decide
  have hnone : cutLast ⟨false, false⟩ (ampersands ++ cs') = none := by
    rw [cutLast_append hbetween, foldl_step_plain ampersands_plain, hreason]
    rfl
  obtain ⟨init, d, rfl, hblank⟩ := h'.getLast
  simp only [continuation, foldl_step_plain h.plain, hnone]
  rw [← List.append_assoc, Text.trimEnd_append _ hblank]
  rfl

/-- A comparison has no quotes, so that a pattern before it does not go on to one. -/
theorem continuation_before_comparison {c : Comparison} {n : Int64}
    (h' : Writes (.comparison c n) cs') :
    ('\x22' :: continuation cs cs').getLast? ≠ some '\x22' := by
  have hnone : ∀ scan, cutLast scan (ampersands ++ cs') = none := by
    refine cutLast_eq_none ?_
    intro d hd
    rcases List.mem_append.mp hd with hd | hd
    · exact (ampersands_plain d hd).2.2
    · exact (h'.plain d hd).2.2
  obtain ⟨d, hlast, hdigit⟩ := h'.getLast_comparison
  obtain ⟨init, rfl⟩ := List.getLast?_eq_some_iff.mp hlast
  have hend : trimEnd (ampersands ++ (init ++ [d])) = ampersands ++ init ++ [d] := by
    rw [← List.append_assoc, Text.trimEnd_append _ (isBlank_of_isDigit hdigit)]
    rfl
  simp only [continuation, hnone, hend]
  rw [← List.cons_append, List.getLast?_concat]
  intro hquote
  obtain rfl : d = '\x22' := Option.some.inj hquote
  exact absurd hdigit (by decide)

/-! ## 2. What a conjunction is read as -/

section Reading

variable {c c' : Comparison} {n n' : Int64}

theorem joins_ampersands : Joins ampersands := by
  intro d hd
  have hall : ampersands.all joinsTerms = true := by decide
  exact List.all_eq_true.mp hall d hd

theorem stops_ampersands (rest : List Char) : Stops (ampersands ++ rest) := by
  intro d hd
  obtain rfl : ' ' = d := by simpa [ampersands] using hd
  decide

theorem ofCondition_comparisons (h : Writes (.comparison c n) cs)
    (h' : Writes (.comparison c' n') cs') :
    Constraint.ofCondition (cs ++ (ampersands ++ cs')) =
      .ofBounds ((c.bounds n).override (c'.bounds n')) := by
  rw [ofCondition_comparison h, readBounds?_comparisons h h' joins_ampersands (stops_ampersands _)]

/-- Where a pattern or a list starts, no comparison does. -/
theorem Writes.not_term (h : second.Writes cs') (hsecond : ∀ c n, second ≠ .comparison c n) :
    ∃ d ds, cs' = d :: ds ∧ joinsTerms d = false ∧ Expression.readTerm? (d :: ds) = none := by
  have hbang : ∀ ds : List Char, joinsTerms '!' = false ∧
      Expression.readTerm? ('!' :: ds) = none := by
    intro ds
    exact ⟨by decide, readTerm?_cons_ne (by decide) ds⟩
  cases h with
  | comparison => exact absurd rfl (hsecond _ _)
  | pattern hnegation =>
    cases hnegation with
    | absent => exact ⟨'p', _, rfl, by decide, readTerm?_cons_ne (by decide) _⟩
    | bang => exact ⟨'!', _, rfl, hbang _⟩
  | @values _ _ _ gap gap' listing hnegation hgap =>
    cases hnegation with
    | absent =>
      refine ⟨'$', _, rfl, by decide, ?_⟩
      have hdrop := dropStart?_append subject (gap ++ ("in".toList ++ (gap' ++ listing)))
      have htrim : trimStart (gap ++ ("in".toList ++ (gap' ++ listing))) =
          'i' :: 'n' :: (gap' ++ listing) := by
        rw [trimStart_gap hgap]
        exact trimStart_cons (by decide) _
      change Expression.readTerm? (subject ++ (gap ++ ("in".toList ++ (gap' ++ listing)))) = none
      rw [Expression.readTerm?, hdrop]
      simp only [Option.bind_eq_bind, Option.bind_some, htrim]
      rfl
    | bang => exact ⟨'!', _, rfl, hbang _⟩

/-- A comparison and a condition of another shape are not recognized together. -/
theorem ofCondition_comparison_other (h : Writes (.comparison c n) cs) (h' : second.Writes cs')
    (hsecond : ∀ c n, second ≠ .comparison c n) :
    Constraint.ofCondition (cs ++ (ampersands ++ cs')) =
      .unrecognized (String.ofList (cs ++ (ampersands ++ cs'))) none := by
  obtain ⟨d, ds, rfl, hd, hterm⟩ := h'.not_term hsecond
  rw [ofCondition_comparison h,
    readBounds?_comparison_stuck h joins_ampersands hd hterm (stops_ampersands _)]

end Reading

end Shape

end Expression

/-! ## 3. What a conjunction should say -/

namespace Constraint

variable {patterns : PatternReader}

/-- A value passes the check. -/
def Passes (patterns : PatternReader) (c : Constraint) (v : String) : Prop :=
  c.check patterns v = .pass

/-- A value fails the check. -/
def Fails (patterns : PatternReader) (c : Constraint) (v : String) : Prop :=
  ∃ message, c.check patterns v = .fail message

theorem passes_iff {c : Constraint} {v : String} :
    c.Passes patterns v ↔ c.holds? patterns v = some true := by
  unfold Passes check
  split <;> simp_all

theorem fails_iff {c : Constraint} {v : String} :
    c.Fails patterns v ↔ c.holds? patterns v = some false := by
  unfold Fails check
  split <;> simp_all

/-- What passes fails neither condition, and what fails, fails one of them. -/
structure Conjoins (patterns : PatternReader) (c first second : Constraint) : Prop where
  pass : ∀ v, c.Passes patterns v → ¬ first.Fails patterns v ∧ ¬ second.Fails patterns v
  fail : ∀ v, c.Fails patterns v → first.Fails patterns v ∨ second.Fails patterns v

variable {c first second : Constraint}

theorem conjoins_withReason (reason : Option String) :
    (c.withReason reason).Conjoins patterns first second ↔ c.Conjoins patterns first second := by
  have hpass : ∀ v, (c.withReason reason).Passes patterns v ↔ c.Passes patterns v := by
    intro v
    simp [passes_iff]
  have hfail : ∀ v, (c.withReason reason).Fails patterns v ↔ c.Fails patterns v := by
    intro v
    simp [fails_iff]
  constructor
  · rintro ⟨h, h'⟩
    exact ⟨fun v hv => h v ((hpass v).mpr hv), fun v hv => h' v ((hfail v).mpr hv)⟩
  · rintro ⟨h, h'⟩
    exact ⟨fun v hv => h v ((hpass v).mp hv), fun v hv => h' v ((hfail v).mp hv)⟩

/-- What is not recognized is not checked, and so says nothing wrong. -/
theorem conjoins_unrecognized (text : String) (reason : Option String) :
    (unrecognized text reason).Conjoins patterns first second where
  pass v hv := by cases passes_iff.mp hv
  fail v hv := by cases fails_iff.mp hv

/-- A constraint that checks every value agrees with two others when it fails what one of them
fails. -/
theorem conjoins_iff (hchecks : ∀ v, c.Passes patterns v ↔ ¬ c.Fails patterns v) :
    c.Conjoins patterns first second ↔
      ∀ v, c.Fails patterns v ↔ first.Fails patterns v ∨ second.Fails patterns v := by
  constructor
  · rintro ⟨hpass, hfail⟩ v
    refine ⟨hfail v, ?_⟩
    intro hone
    by_contra hnot
    have hneither := hpass v ((hchecks v).mpr hnot)
    exact hone.elim hneither.1 hneither.2
  · intro h
    refine ⟨?_, fun v => (h v).mp⟩
    intro v hv
    rw [hchecks, h, not_or] at hv
    exact hv

/-! ### Lists -/

@[simp] theorem allowed_passes {vs : List String} {v : String} :
    (ofValues false vs).Passes patterns v ↔ v ∈ vs := by
  simp [passes_iff, ofValues, holds?]

@[simp] theorem allowed_fails {vs : List String} {v : String} :
    (ofValues false vs).Fails patterns v ↔ v ∉ vs := by
  simp [fails_iff, ofValues, holds?]

@[simp] theorem disallowed_passes {vs : List String} {v : String} :
    (ofValues true vs).Passes patterns v ↔ v ∉ vs := by
  simp [passes_iff, ofValues, holds?]

@[simp] theorem disallowed_fails {vs : List String} {v : String} :
    (ofValues true vs).Fails patterns v ↔ v ∈ vs := by
  simp [fails_iff, ofValues, holds?]

/-- A list checks every value. -/
theorem ofValues_checks {negated : Bool} {vs : List String} (v : String) :
    (ofValues negated vs).Passes patterns v ↔ ¬ (ofValues negated vs).Fails patterns v := by
  cases negated with
  | false => rw [allowed_passes, allowed_fails, not_not]
  | true => rw [disallowed_passes, disallowed_fails]

/-- A longer list of allowed values agrees when nothing new is in it and the other condition refuses
none of them. -/
theorem conjoins_allowed {vs more : List String} :
    (ofValues false (vs ++ more)).Conjoins patterns (ofValues false vs) second ↔
      (∀ v ∈ more, v ∈ vs) ∧ ∀ v ∈ vs, ¬ second.Fails patterns v := by
  rw [conjoins_iff ofValues_checks]
  simp only [allowed_fails, List.mem_append, not_or]
  constructor
  · intro h
    constructor
    · intro v hmore
      by_contra hvs
      exact ((h v).mpr (.inl hvs)).2 hmore
    · intro v hvs hfails
      exact ((h v).mpr (.inr hfails)).1 hvs
  · rintro ⟨hmore, hsecond⟩ v
    constructor
    · rintro ⟨hvs, -⟩
      exact .inl hvs
    · rintro (hvs | hfails)
      · exact ⟨hvs, fun hmem => hvs (hmore v hmem)⟩
      · have hvs : v ∉ vs := fun hmem => hsecond v hmem hfails
        exact ⟨hvs, fun hmem => hvs (hmore v hmem)⟩

/-- A longer list of refused values agrees when it has just what one of the two refuses. -/
theorem conjoins_disallowed {vs more : List String} :
    (ofValues true (vs ++ more)).Conjoins patterns (ofValues true vs) second ↔
      (∀ v ∈ more, v ∈ vs ∨ second.Fails patterns v) ∧
        ∀ v, second.Fails patterns v → v ∈ vs ∨ v ∈ more := by
  rw [conjoins_iff ofValues_checks]
  simp only [disallowed_fails, List.mem_append]
  constructor
  · intro h
    exact ⟨fun v hmore => (h v).mp (.inr hmore), fun v hfails => (h v).mpr (.inr hfails)⟩
  · rintro ⟨hmore, hsecond⟩ v
    constructor
    · rintro (hvs | hmem)
      · exact .inl hvs
      · exact hmore v hmem
    · rintro (hvs | hfails)
      · exact .inl hvs
      · exact hsecond v hfails

/-! ### Patterns -/

theorem ofPattern_passes {negated : Bool} {p v : String} : (ofPattern negated p).Passes patterns v ↔
    ∃ found, patterns p = some found ∧ found v = !negated := by
  cases negated <;> simp [passes_iff, ofPattern, holds?, Option.map_eq_some_iff]

theorem ofPattern_fails {negated : Bool} {p v : String} : (ofPattern negated p).Fails patterns v ↔
    ∃ found, patterns p = some found ∧ found v = negated := by
  cases negated <;> simp [fails_iff, ofPattern, holds?, Option.map_eq_some_iff]

/-- A pattern agrees with two conditions when it has no reading, or refuses what one of
them fails. -/
theorem conjoins_pattern {negated : Bool} {p : String} :
    (ofPattern negated p).Conjoins patterns first second ↔
      ∀ found, patterns p = some found →
        ∀ v, found v = negated ↔ first.Fails patterns v ∨ second.Fails patterns v := by
  cases hread : patterns p with
  | none =>
    refine iff_of_true ⟨?_, ?_⟩ (fun found hfound => by cases hfound)
    · intro v hv
      obtain ⟨found, hfound, -⟩ := ofPattern_passes.mp hv
      rw [hread] at hfound
      cases hfound
    · intro v hv
      obtain ⟨found, hfound, -⟩ := ofPattern_fails.mp hv
      rw [hread] at hfound
      cases hfound
  | some found =>
    rw [conjoins_iff (by simp [ofPattern_passes, ofPattern_fails, hread, Bool.eq_not])]
    simp [ofPattern_fails, hread]

end Constraint

/-! ### Ranges -/

namespace Expression.Bounds

/-- A number is within the bounds. -/
def Admits (bounds : Bounds) (n : Int64) : Prop :=
  Constraint.inBounds bounds.min bounds.max n = true

/-- Where both say something of one side, the later bounds are as tight as the earlier ones. -/
def Tightens (earlier later : Bounds) : Prop :=
  (∀ a ∈ earlier.min, ∀ b ∈ later.min, a ≤ b) ∧ ∀ a ∈ earlier.max, ∀ b ∈ later.max, b ≤ a

variable {earlier later : Bounds} {n : Int64}

theorem all_or {x y : Option Int64} {p : Int64 → Bool}
    (h : ∀ a ∈ x, ∀ b ∈ y, p b = true → p a = true) :
    (y.or x).all p = (x.all p && y.all p) := by
  cases x with
  | none => simp
  | some a =>
    cases y with
    | none => simp
    | some b =>
      have hab := h a rfl b rfl
      cases hb : p b <;> simp_all

theorem admits_override (h : earlier.Tightens later) :
    (earlier.override later).Admits n ↔ earlier.Admits n ∧ later.Admits n := by
  have hmin := all_or (p := fun a => decide (a ≤ n)) (x := earlier.min) (y := later.min) (by
    intro a ha b hb hle
    exact decide_eq_true (Int64.le_trans (h.1 a ha b hb) (of_decide_eq_true hle)))
  have hmax := all_or (p := fun b => decide (n ≤ b)) (x := earlier.max) (y := later.max) (by
    intro a ha b hb hle
    exact decide_eq_true (Int64.le_trans (of_decide_eq_true hle) (h.2 a ha b hb)))
  simp only [Admits, Constraint.inBounds, override, hmin, hmax, Bool.and_eq_true]
  tauto

/-- A comparison bounds one side. -/
theorem bounds_one_side (c : Comparison) (n : Int64) :
    (∃ a, c.bounds n = { min := some a }) ∨ ∃ a, c.bounds n = { max := some a } := by
  cases c with
  | atLeast => exact .inl ⟨_, rfl⟩
  | above => exact .inl ⟨_, rfl⟩
  | atMost => exact .inr ⟨_, rfl⟩
  | below => exact .inr ⟨_, rfl⟩

/-- Comparisons of one side are tightened where the later bound itself admits nothing new. -/
theorem tightens_of_admits {c c' : Comparison} {k k' : Int64}
    (h : ∀ n, ((c.bounds k).override (c'.bounds k')).Admits n → (c.bounds k).Admits n) :
    (c.bounds k).Tightens (c'.bounds k') := by
  rcases bounds_one_side c k with ⟨a, ha⟩ | ⟨a, ha⟩ <;>
    rcases bounds_one_side c' k' with ⟨b, hb⟩ | ⟨b, hb⟩ <;> rw [ha, hb] at h ⊢
  case inl.inl =>
    have := h b (by simp [Admits, override, Constraint.inBounds])
    simpa [Admits, Tightens, Constraint.inBounds] using this
  case inl.inr => simp [Tightens]
  case inr.inl => simp [Tightens]
  case inr.inr =>
    have := h b (by simp [Admits, override, Constraint.inBounds])
    simpa [Admits, Tightens, Constraint.inBounds] using this

end Expression.Bounds

namespace Constraint

open Expression

variable {patterns : PatternReader}

/-- The number that a value writes. -/
def number? (v : String) : Option Int64 := Text.readInt64 (Text.trimChars v.toList)

theorem ofBounds_passes {bounds : Bounds} {v : String} :
    (ofBounds bounds).Passes patterns v ↔ ∃ n, number? v = some n ∧ bounds.Admits n := by
  simp [passes_iff, ofBounds, holds?, number?, Bounds.Admits, Option.any_eq_true]

theorem ofBounds_fails {bounds : Bounds} {v : String} :
    (ofBounds bounds).Fails patterns v ↔ ¬ (ofBounds bounds).Passes patterns v := by
  rw [fails_iff, passes_iff]
  simp [ofBounds, holds?]

/-- Two comparisons agree with the bounds of both when the second bound does not loosen
the first. -/
theorem conjoins_bounds {c c' : Comparison} {k k' : Int64} :
    (ofBounds ((c.bounds k).override (c'.bounds k'))).Conjoins patterns (ofBounds (c.bounds k))
      (ofBounds (c'.bounds k')) ↔ (c.bounds k).Tightens (c'.bounds k') := by
  rw [conjoins_iff (by simp [ofBounds_fails])]
  simp only [ofBounds_fails, ← not_and_or, not_iff_not]
  constructor
  · intro h
    refine Bounds.tightens_of_admits ?_
    intro n hn
    have hnumber : number? (Text.ofInt n.toInt) = some n := Text.readInt64_ofInt n
    have hfirst := ((h _).mp (ofBounds_passes.mpr ⟨n, hnumber, hn⟩)).1
    obtain ⟨m, hm, hadmits⟩ := ofBounds_passes.mp hfirst
    obtain rfl : n = m := Option.some.inj (hnumber.symm.trans hm)
    exact hadmits
  · intro h v
    simp only [ofBounds_passes, Bounds.admits_override h]
    constructor
    · rintro ⟨n, hn, hfirst, hsecond⟩
      exact ⟨⟨n, hn, hfirst⟩, n, hn, hsecond⟩
    · rintro ⟨⟨n, hn, hfirst⟩, m, hm, hsecond⟩
      obtain rfl : n = m := Option.some.inj (hn.symm.trans hm)
      exact ⟨n, hn, hfirst, hsecond⟩

end Constraint

/-! ## 4. When a conjunction is read for what it says -/

namespace Expression

open Constraint Text

variable {patterns : PatternReader}

/-- The values that a shape refuses. A pattern without a reading refuses none. -/
def Shape.Refuses (patterns : PatternReader) (v : String) : Shape → Prop
  | .comparison c n => ∀ k, number? v = some k → ¬ (c.bounds n).Admits k
  | .pattern negated p => ∃ found, patterns p = some found ∧ found v = negated
  | .values false vs => v ∉ vs
  | .values true vs => v ∈ vs

/-- What a shape refuses is what fails the check of its constraint. -/
theorem fails_constraint {shape : Shape} {v : String} :
    shape.constraint.Fails patterns v ↔ shape.Refuses patterns v := by
  cases shape with
  | comparison c n =>
    rw [Shape.constraint, ofBounds_fails, ofBounds_passes]
    simp [Shape.Refuses]
  | pattern negated p => exact ofPattern_fails
  | values negated vs =>
    cases negated with
    | false => exact allowed_fails
    | true => exact disallowed_fails

/-- The pattern that goes on from `p` through the rest of a text to its last character. -/
def glued (p : String) (rest : List Char) : String :=
  String.ofList (p.toList ++ ('\x22' :: rest).dropLast)

/-- When the constraint of a conjunction agrees with its two conditions. What follows the first
condition is `rest`.

Two comparisons agree unless the second loosens a bound of the first. A comparison and another shape
are not recognized together, and nothing is checked then. A pattern is glued to what follows it, if
that ends with a quote: this is sound where the glued pattern refuses just what one of the two
conditions refuses, or has no reading. A list goes on with what stands between quotes behind it. -/
def Shape.Faithful (patterns : PatternReader) : Shape → Shape → List Char → Prop
  | .comparison c n, .comparison c' n', _ => (c.bounds n).Tightens (c'.bounds n')
  | .comparison _ _, _, _ => True
  | .pattern _ _, .comparison _ _, _ => True
  | .pattern negated p, second, rest =>
    ('\x22' :: rest).getLast? = some '\x22' → ∀ found, patterns (glued p rest) = some found →
      ∀ v, found v = negated ↔
        (Shape.pattern negated p).Refuses patterns v ∨ second.Refuses patterns v
  | .values false vs, second, rest =>
    (∀ v ∈ quotedValues rest, v ∈ vs) ∧ ∀ v ∈ vs, ¬ second.Refuses patterns v
  | .values true vs, second, rest =>
    (∀ v ∈ quotedValues rest, v ∈ vs ∨ second.Refuses patterns v) ∧
      ∀ v, second.Refuses patterns v → v ∈ vs ∨ v ∈ quotedValues rest

variable {e e' : String} {first second shape : Shape}

/-- An expression without a reason is read as the shape that it writes. -/
theorem ofExpression_writes (h : shape.Writes e.toList)
    (hreason : cutLast ⟨false, false⟩ e.toList = none) : ofExpression e = shape.constraint := by
  simp only [ofExpression, h.splitReason_self hreason, ofCondition_writes h]
  cases shape with
  | comparison => rfl
  | pattern negated => cases negated <;> rfl
  | values negated => cases negated <;> rfl

theorem ofExpression_conjunction (h : first.Writes e.toList)
    (hreason : cutLast ⟨false, false⟩ e.toList = none) (e' : String) : ∃ reason,
      ofExpression (e ++ " && " ++ e') =
        (ofCondition (e.toList ++ continuation e.toList e'.toList)).withReason reason := by
  have htext : (e ++ " && " ++ e').toList = e.toList ++ (ampersands ++ e'.toList) := by
    simp [ampersands]
  have hsplit : (splitReason (e ++ " && " ++ e').toList).1 =
      e.toList ++ continuation e.toList e'.toList := by
    rw [htext]
    exact h.splitReason_append hreason
  rw [← hsplit]
  exact ⟨_, rfl⟩

/-- A pattern goes on to the last quote: a conjunction that begins with one is read as the glued
pattern, or not recognized where what follows does not end with a quote. -/
theorem conjoins_glued {negated : Bool} {p : String}
    (h : Shape.Writes (.pattern negated p) e.toList) (rest : List Char) {first second : Constraint} :
    (ofCondition (e.toList ++ rest)).Conjoins patterns first second ↔
      (('\x22' :: rest).getLast? = some '\x22' → ∀ found, patterns (glued p rest) = some found →
        ∀ v, found v = negated ↔ first.Fails patterns v ∨ second.Fails patterns v) := by
  rw [ofCondition_pattern h]
  split
  case isTrue hquote =>
    rw [← glued, conjoins_pattern]
    exact ⟨fun hglued _ => hglued, fun hglued => hglued hquote⟩
  case isFalse hquote =>
    exact iff_of_true (conjoins_unrecognized _ _) fun hlast => absurd hlast hquote

/-- **A conjunction of two conditions is read as a constraint that agrees with them exactly when it
is faithful:** a comparison with a bound that does not loosen the one before it, or with a shape
that makes it unrecognized, or a pattern or a list that happens to say the same. That holds however
patterns are read. -/
theorem conjoins_iff_faithful (patterns : PatternReader) (h : first.Writes e.toList)
    (h' : second.Writes e'.toList) (hreason : cutLast ⟨false, false⟩ e.toList = none)
    (hreason' : cutLast ⟨false, false⟩ e'.toList = none) :
    (ofExpression (e ++ " && " ++ e')).Conjoins patterns (ofExpression e) (ofExpression e') ↔
      first.Faithful patterns second (continuation e.toList e'.toList) := by
  obtain ⟨reason, hread⟩ := ofExpression_conjunction h hreason e'
  rw [hread, conjoins_withReason, ofExpression_writes h hreason, ofExpression_writes h' hreason']
  cases first with
  | comparison c n =>
    rw [Shape.continuation_comparison h h' hreason']
    cases second with
    | comparison c' n' =>
      rw [Shape.ofCondition_comparisons h h']
      exact conjoins_bounds
    | pattern =>
      rw [Shape.ofCondition_comparison_other h h' (by simp)]
      exact iff_of_true (conjoins_unrecognized _ _) trivial
    | values =>
      rw [Shape.ofCondition_comparison_other h h' (by simp)]
      exact iff_of_true (conjoins_unrecognized _ _) trivial
  | pattern negated p =>
    rw [conjoins_glued h]
    simp only [fails_constraint]
    cases second with
    | comparison c' n' =>
      have hlast : ('\x22' :: continuation e.toList e'.toList).getLast? ≠ some '\x22' :=
        Shape.continuation_before_comparison h'
      exact iff_of_true (fun hquote => absurd hquote hlast) trivial
    | pattern => exact Iff.rfl
    | values => exact Iff.rfl
  | values negated vs =>
    rw [ofCondition_values h]
    cases negated with
    | false =>
      rw [Shape.constraint, conjoins_allowed]
      simp only [fails_constraint, Shape.Faithful]
    | true =>
      rw [Shape.constraint, conjoins_disallowed]
      simp only [fails_constraint, Shape.Faithful]

theorem conjoins_ports : (ofExpression ("$VAR(@) >= 1" ++ " && " ++ "$VAR(@) <= 65535")).Conjoins
    Pattern.reader (ofExpression "$VAR(@) >= 1") (ofExpression "$VAR(@) <= 65535") := by
  have hgap : Gap [' '] := by simp [Gap, isBlank]
  have h : (Shape.comparison .atLeast 1).Writes "$VAR(@) >= 1".toList :=
    @Shape.Writes.comparison .atLeast 1 [' '] [' '] ['1'] hgap hgap (by decide) (by decide)
  have h' : (Shape.comparison .atMost 65535).Writes "$VAR(@) <= 65535".toList :=
    @Shape.Writes.comparison .atMost 65535 [' '] [' '] ['6', '5', '5', '3', '5'] hgap hgap
      (by decide) (by decide)
  refine (conjoins_iff_faithful Pattern.reader h h' (by decide) (by decide)).mpr ?_
  simp [Shape.Faithful, Comparison.bounds, Bounds.Tightens]

/-- Of two lower bounds the last is taken, though it is the weaker one. -/
theorem lower_bound_lost :
    (ofExpression ("$VAR(@) >= 10" ++ " && " ++ "$VAR(@) >= 5")).Passes Pattern.reader "7" ∧
      (ofExpression "$VAR(@) >= 10").Fails Pattern.reader "7" := by
  refine ⟨?_, ?_⟩
  · rw [passes_iff]
    decide +kernel
  · rw [fails_iff]
    decide +kernel

end Expression

end RouterConfig
