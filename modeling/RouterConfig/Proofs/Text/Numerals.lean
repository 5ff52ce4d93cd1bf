/-
RouterConfig.Proofs.Text.Numerals — the decimal text of a number, and that
it is read as the number.

The digits of a number are ASCII digits and begin with a zero for zero only
(`eq_zero_of_head?_ofNat`), so that the text is the one with the fewest
digits. Different numbers have different texts.
-/
import RouterConfig.Proofs.Text.Cutting
import RouterConfig.Text.Integer

namespace RouterConfig.Text

/-! ## 1. Natural numbers -/

/-- A number is read from its own numeral. -/
theorem readDigits_ofNat (n : Nat) : readDigits (ofNat n).toList = some n := by
  rw [ofNat, String.toList_ofList, readDigits_toDigits]

theorem ofNat_injective {m n : Nat} (h : ofNat m = ofNat n) : m = n := by
  have hread := readDigits_ofNat m
  rw [h, readDigits_ofNat] at hread
  exact (Option.some.inj hread).symm

theorem isDigit_of_mem_ofNat {n : Nat} {c : Char} (h : c ∈ (ofNat n).toList) :
    c.isDigit = true := by
  rw [ofNat, String.toList_ofList] at h
  exact Nat.isDigit_of_mem_toDigits (by decide) (by decide) h

theorem slash_not_mem_ofNat (n : Nat) : '/' ∉ (ofNat n).toList := by
  intro h
  have := isDigit_of_mem_ofNat h
  revert this
  decide

/-- Only zero is written with a zero in front. -/
theorem eq_zero_of_head?_ofNat {n : Nat} (h : (ofNat n).toList.head? = some '0') : n = 0 := by
  rw [ofNat, String.toList_ofList] at h
  induction n using Nat.strongRecOn with
  | ind n ih =>
    rcases Nat.lt_or_ge n 10 with hlt | hge
    · have hdigit : ∀ m < 10, Nat.digitChar m = '0' → m = 0 := by decide
      rw [Nat.toDigits_of_lt_base hlt] at h
      exact hdigit n hlt (by simpa using h)
    · have hdiv : n / 10 < n := Nat.div_lt_self (by omega) (by decide)
      rw [Nat.toDigits_of_base_le (by decide) hge, List.head?_append_of_ne_nil _ Nat.toDigits_ne_nil] at h
      have := ih (n / 10) hdiv h
      omega

/-! ## 2. Integers of 64 bits -/

theorem digits_of_readDigits {digits : List Char} {n : Nat} (h : readDigits digits = some n) :
    digits ≠ [] ∧ ∀ c ∈ digits, c.isDigit = true := by
  unfold readDigits at h
  split at h
  case isTrue => cases h
  case isFalse hnot => simpa using hnot

/-- A number without a plus sign has digits after at most a minus sign. -/
theorem digits_of_readInt64 {numeral : List Char} {n : Int64} (hread : readInt64 numeral = some n)
    (hplus : numeral.head? ≠ some '+') : ∃ digits : List Char, digits ≠ [] ∧
      (∀ c ∈ digits, c.isDigit = true) ∧ (numeral = digits ∨ numeral = '-' :: digits) := by
  unfold readInt64 at hread
  split at hread
  case h_1 digits =>
    obtain ⟨m, hm, -⟩ := Option.bind_eq_some_iff.mp hread
    obtain ⟨hne, hdigits⟩ := digits_of_readDigits hm
    exact ⟨digits, hne, hdigits, .inr rfl⟩
  case h_2 => exact absurd rfl hplus
  case h_3 =>
    obtain ⟨m, hm, -⟩ := Option.bind_eq_some_iff.mp hread
    obtain ⟨hne, hdigits⟩ := digits_of_readDigits hm
    exact ⟨numeral, hne, hdigits, .inl rfl⟩

theorem isBlank_of_isDigit {c : Char} (h : c.isDigit = true) : isBlank c = false := by
  simp only [Char.isDigit, Bool.and_eq_true, decide_eq_true_eq, ge_iff_le,
    UInt32.le_iff_toNat_le] at h
  have hlow : 48 ≤ c.toNat := h.1
  have hhigh : c.toNat ≤ 57 := h.2
  simp only [isBlank, Bool.or_eq_false_iff, Bool.and_eq_false_iff, decide_eq_false_iff_not,
    beq_eq_false_iff_ne]
  omega

theorem int64OfInt?_toInt (n : Int64) : int64OfInt? n.toInt = some n := by
  rw [int64OfInt?, if_pos ⟨n.minValue_le_toInt, n.toInt_le⟩, Int64.ofInt_toInt]

/-- The decimal text of a number is read as the number, and has no plus sign. -/
theorem readInt64_numeral (n : Int64) : readInt64 (ofInt n.toInt).toList = some n ∧
    (ofInt n.toInt).toList.head? ≠ some '+' := by
  have hdigits : ∀ k : Nat, ∀ c ∈ Nat.toDigits 10 k, c.isDigit = true := by
    intro k c hc
    exact Nat.isDigit_of_mem_toDigits (by decide) (by decide) hc
  have hvalue := int64OfInt?_toInt n
  generalize n.toInt = i at hvalue ⊢
  cases i with
  | ofNat k =>
    have htext : (ofInt (.ofNat k)).toList = Nat.toDigits 10 k := by simp [ofInt, ofNat]
    have hread := readDigits_toDigits k
    obtain ⟨d, ds, hcons⟩ := List.exists_cons_of_ne_nil (digits_of_readDigits hread).1
    have hd : d.isDigit = true := hdigits k d (by simp [hcons])
    rw [hcons] at hread
    rw [htext, hcons]
    have hminus : d ≠ '-' := by
      rintro rfl
      exact absurd hd (by decide)
    have hplus : d ≠ '+' := by
      rintro rfl
      exact absurd hd (by decide)
    rw [readInt64.eq_3 _ (by simpa using hminus) (by simpa using hplus), hread]
    exact ⟨hvalue, by simpa using hplus⟩
  | negSucc k =>
    have htext : (ofInt (.negSucc k)).toList = '-' :: Nat.toDigits 10 (k + 1) := by
      simp [ofInt, ofNat]
    have hneg : -((k + 1 : Nat) : Int) = .negSucc k := rfl
    rw [htext, readInt64.eq_1, readDigits_toDigits, Option.bind_some, hneg, hvalue]
    exact ⟨rfl, by simp⟩

theorem readInt64_ofInt (n : Int64) : readInt64 (trimChars (ofInt n.toInt).toList) = some n := by
  obtain ⟨hread, hplus⟩ := readInt64_numeral n
  obtain ⟨digits, -, hdigits, hform⟩ := digits_of_readInt64 hread hplus
  have hblank : ∀ c ∈ (ofInt n.toInt).toList, isBlank c = false := by
    intro c hc
    rcases hform with hform | hform <;> rw [hform] at hc
    case inl => exact isBlank_of_isDigit (hdigits c hc)
    case inr =>
      rcases List.mem_cons.mp hc with rfl | hc
      · decide
      · exact isBlank_of_isDigit (hdigits c hc)
  rw [trimChars_of_forall hblank, hread]

end RouterConfig.Text
