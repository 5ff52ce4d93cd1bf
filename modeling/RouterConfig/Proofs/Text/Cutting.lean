/-
RouterConfig.Proofs.Text.Cutting — what trimming, cutting and splitting
leave of a text, and that pieces which were joined are found again.

Trimming stops at the first character that is no blank, from either end, so
that what is trimmed once stays as it is. A cut is known by the separator
that is missing before it (`cut_eq_some_iff`). Pieces without the separator
are what a split of their joined text gives back (`splitAll_join`).
-/
import Mathlib.Data.List.Basic
import RouterConfig.Text.Basic

namespace RouterConfig.Text

/-! ## 1. Blanks at the ends -/

/-- Blanks and nothing else. -/
def Gap (cs : List Char) : Prop := ∀ c ∈ cs, isBlank c = true

theorem trimStart_gap {gap : List Char} (h : Gap gap) (cs : List Char) :
    trimStart (gap ++ cs) = trimStart cs :=
  List.dropWhile_append_of_pos h

theorem trimStart_cons {c : Char} (h : isBlank c = false) (cs : List Char) :
    trimStart (c :: cs) = c :: cs := by
  simp [trimStart, h]

/-- What stands before a character that is no blank is not trimmed from the end. -/
theorem trimEnd_append (xs : List Char) {c : Char} (h : isBlank c = false) (ys : List Char) :
    trimEnd (xs ++ c :: ys) = xs ++ c :: trimEnd ys := by
  have hdrop : (ys.reverse ++ c :: xs.reverse).dropWhile isBlank =
      ys.reverse.dropWhile isBlank ++ c :: xs.reverse := by
    rw [List.dropWhile_append]
    split
    case isTrue hnil =>
      have : ys.reverse.dropWhile isBlank = [] := by simpa using hnil
      rw [this, List.dropWhile_cons_of_neg (by simp [h]), List.nil_append]
    case isFalse => rfl
  simp [trimEnd, hdrop]

theorem trimChars_cons {c : Char} (h : isBlank c = true) (cs : List Char) :
    trimChars (c :: cs) = trimChars cs := by
  rw [trimChars, trimStart, List.dropWhile_cons_of_pos h]
  rfl

theorem trimChars_concat {c : Char} (h : isBlank c = true) (cs : List Char) :
    trimChars (cs ++ [c]) = trimChars cs := by
  have hend : ∀ ds : List Char, trimEnd (ds ++ [c]) = trimEnd ds := by
    intro ds
    simp [trimEnd, h]
  rw [trimChars, trimStart, List.dropWhile_append]
  split
  case isTrue hnil =>
    have hblank : cs.dropWhile isBlank = [] := by simpa using hnil
    rw [trimChars, trimStart, hblank, List.dropWhile_cons_of_pos h]
    rfl
  case isFalse => exact hend _

theorem dropWhile_of_head? {p : Char → Bool} {cs : List Char} (h : ∀ c ∈ cs.head?, p c = false) :
    cs.dropWhile p = cs := by
  cases cs with
  | nil => rfl
  | cons c cs => rw [List.dropWhile_cons_of_neg (by simp [h c rfl])]

/-- A text without blanks at its ends is not trimmed. -/
theorem trimChars_of_ends {cs : List Char} (hhead : ∀ c ∈ cs.head?, isBlank c = false)
    (hlast : ∀ c ∈ cs.getLast?, isBlank c = false) : trimChars cs = cs := by
  rw [trimChars, trimStart, dropWhile_of_head? hhead, trimEnd,
    dropWhile_of_head? (by simpa using hlast), List.reverse_reverse]

theorem trimChars_of_forall {cs : List Char} (h : ∀ c ∈ cs, isBlank c = false) :
    trimChars cs = cs :=
  trimChars_of_ends (fun c hc => h c (List.mem_of_mem_head? hc))
    (fun c hc => h c (List.mem_of_getLast? hc))

theorem isBlank_head?_dropWhile (cs : List Char) :
    ∀ c ∈ (cs.dropWhile isBlank).head?, isBlank c = false := by
  intro c hc
  have hnot := List.head?_dropWhile_not isBlank cs
  rw [hc] at hnot
  exact hnot

/-- What is left of a trimmed text does not begin with a blank. -/
theorem isBlank_head?_trimChars (cs : List Char) :
    ∀ c ∈ (trimChars cs).head?, isBlank c = false := by
  have hhead := isBlank_head?_dropWhile cs
  rw [trimChars, trimStart]
  cases hdrop : cs.dropWhile isBlank with
  | nil => simp [trimEnd]
  | cons d ds =>
    rw [hdrop] at hhead
    have hd : isBlank d = false := hhead d rfl
    have hkept : trimEnd (d :: ds) = d :: trimEnd ds := trimEnd_append [] hd ds
    rw [hkept]
    simpa using hd

theorem trimChars_trimChars (cs : List Char) : trimChars (trimChars cs) = trimChars cs := by
  refine trimChars_of_ends (isBlank_head?_trimChars cs) ?_
  rw [trimChars, trimEnd, List.getLast?_reverse]
  exact isBlank_head?_dropWhile _

theorem mem_of_mem_trimChars {c : Char} {cs : List Char} (h : c ∈ trimChars cs) : c ∈ cs := by
  rw [trimChars, trimEnd, List.mem_reverse] at h
  have hstart := (List.dropWhile_sublist isBlank).subset h
  exact (List.dropWhile_sublist isBlank).subset (List.mem_reverse.mp hstart)

/-! ## 2. Cuts -/

theorem cut_append {sep : Char} {before : List Char} (h : sep ∉ before) (after : List Char) :
    cut sep (before ++ sep :: after) = some (before, after) := by
  induction before with
  | nil => simp [cut]
  | cons c before ih =>
    obtain ⟨hc, hbefore⟩ : sep ≠ c ∧ sep ∉ before := by simpa using h
    simp [cut, Ne.symm hc, ih hbefore]

/-- A text is cut at the first separator. -/
theorem cut_eq_some_iff {sep : Char} {cs before after : List Char} :
    cut sep cs = some (before, after) ↔ cs = before ++ sep :: after ∧ sep ∉ before := by
  constructor
  · intro h
    induction cs generalizing before with
    | nil => cases h
    | cons c cs ih =>
      rw [cut] at h
      split at h
      case isTrue hc =>
        cases h
        simp [hc]
      case isFalse hc =>
        obtain ⟨⟨init, rest⟩, hcut, heq⟩ := Option.map_eq_some_iff.mp h
        cases heq
        obtain ⟨rfl, hinit⟩ := ih hcut
        exact ⟨rfl, by simp [Ne.symm hc, hinit]⟩
  · rintro ⟨rfl, h⟩
    exact cut_append h after

theorem cut_eq_none_iff {sep : Char} {cs : List Char} : cut sep cs = none ↔ sep ∉ cs := by
  induction cs with
  | nil => simp [cut]
  | cons c cs ih =>
    by_cases hc : c = sep
    · simp [cut, hc]
    · simp [cut, hc, Ne.symm hc, ih]

/-! ## 3. Pieces -/

/-- There is always a first piece. -/
theorem exists_splitWhere (p : Char → Bool) (cs : List Char) :
    ∃ piece pieces, splitWhere p cs = piece :: pieces := by
  cases cs with
  | nil => exact ⟨[], [], rfl⟩
  | cons c cs =>
    rw [splitWhere]
    split
    case h_1 => exact ⟨_, _, rfl⟩
    case h_2 => split <;> exact ⟨_, _, rfl⟩

theorem splitWhere_of_forall {p : Char → Bool} {cs : List Char} (h : ∀ c ∈ cs, p c = false) :
    splitWhere p cs = [cs] := by
  induction cs with
  | nil => rfl
  | cons c cs ih =>
    have hc := h c List.mem_cons_self
    simp [splitWhere, hc, ih (fun d hd => h d (List.mem_cons_of_mem _ hd))]

theorem splitWhere_append {p : Char → Bool} {cs : List Char} (h : ∀ c ∈ cs, p c = false)
    {mark : Char} (hmark : p mark = true) (rest : List Char) :
    splitWhere p (cs ++ mark :: rest) = cs :: splitWhere p rest := by
  induction cs with
  | nil =>
    obtain ⟨piece, pieces, hsplit⟩ := exists_splitWhere p rest
    simp [splitWhere, hsplit, hmark]
  | cons c cs ih =>
    have hc := h c List.mem_cons_self
    simp [splitWhere, hc, ih (fun d hd => h d (List.mem_cons_of_mem _ hd))]

/-- A piece has characters of the text, and none that marks an end of a piece. -/
theorem mem_of_mem_splitWhere {p : Char → Bool} {cs piece : List Char} {c : Char}
    (hpiece : piece ∈ splitWhere p cs) (hc : c ∈ piece) : c ∈ cs ∧ p c = false := by
  induction cs generalizing piece with
  | nil =>
    obtain rfl : piece = [] := by simpa [splitWhere] using hpiece
    cases hc
  | cons d cs ih =>
    obtain ⟨first, pieces, hsplit⟩ := exists_splitWhere p cs
    rw [hsplit] at ih
    have hpieces : (piece ∈ first :: pieces) ∨ p d = false ∧ piece = d :: first := by
      simp only [splitWhere, hsplit] at hpiece
      split at hpiece
      case isTrue =>
        rcases List.mem_cons.mp hpiece with rfl | hmem
        · cases hc
        · exact .inl hmem
      case isFalse hd =>
        rcases List.mem_cons.mp hpiece with rfl | hmem
        · exact .inr ⟨by simpa using hd, rfl⟩
        · exact .inl (List.mem_cons_of_mem _ hmem)
    rcases hpieces with hmem | ⟨hd, rfl⟩
    · exact (ih hmem hc).imp_left (List.mem_cons_of_mem d)
    · rcases List.mem_cons.mp hc with rfl | hc
      · exact ⟨List.mem_cons_self, hd⟩
      · exact (ih List.mem_cons_self hc).imp_left (List.mem_cons_of_mem d)

/-! ## 4. Joined pieces -/

theorem join_append {sep : String} {l p : List String} (hl : l ≠ []) (hp : p ≠ []) :
    join sep (l ++ p) = join sep l ++ sep ++ join sep p := by
  induction l with
  | nil => exact absurd rfl hl
  | cons a rest ih =>
    cases rest with
    | nil =>
      obtain ⟨b, more, rfl⟩ := List.exists_cons_of_ne_nil hp
      rfl
    | cons b more =>
      have hrest := ih (List.cons_ne_nil b more)
      rw [List.cons_append] at hrest
      rw [List.cons_append, List.cons_append, join_cons_cons, hrest, join_cons_cons]
      simp only [String.append_assoc]

theorem join_concat (sep s : String) (ss : List String) (h : ss ≠ []) :
    join sep (ss ++ [s]) = join sep ss ++ sep ++ s :=
  join_append h (List.cons_ne_nil s [])

/-- A character of a joined text stands in one of the pieces, or in the separator between two. -/
theorem mem_join {sep : String} {ws : List String} {c : Char} (h : c ∈ (join sep ws).toList) :
    c ∈ sep.toList ∨ ∃ w ∈ ws, c ∈ w.toList := by
  induction ws with
  | nil => simp at h
  | cons w ws ih =>
    cases ws with
    | nil => exact .inr ⟨w, List.mem_cons_self, h⟩
    | cons v ws =>
      simp only [join_cons_cons, String.toList_append, List.mem_append] at h
      rcases h with (h | h) | h
      · exact .inr ⟨w, List.mem_cons_self, h⟩
      · exact .inl h
      · exact (ih h).imp id fun ⟨u, hu, hc⟩ => ⟨u, List.mem_cons_of_mem _ hu, hc⟩

theorem mem_join_of_mem (sep : String) {ws : List String} {w : String} {c : Char} (hw : w ∈ ws)
    (hc : c ∈ w.toList) : c ∈ (join sep ws).toList := by
  induction ws with
  | nil => cases hw
  | cons v ws ih =>
    cases ws with
    | nil =>
      obtain rfl : w = v := by simpa using hw
      exact hc
    | cons u ws =>
      simp only [join_cons_cons, String.toList_append, List.mem_append]
      rcases List.mem_cons.mp hw with rfl | hw
      · exact .inl (.inl hc)
      · exact .inr (ih hw)

/-- Pieces without the separator are found again in the joined text. -/
theorem splitAll_join {sep : Char} {ws : List String} (hne : ws ≠ [])
    (h : ∀ w ∈ ws, sep ∉ w.toList) :
    splitAll sep (join (String.singleton sep) ws).toList = ws.map String.toList := by
  induction ws with
  | nil => exact absurd rfl hne
  | cons w ws ih =>
    have hw : ∀ c ∈ w.toList, (c == sep) = false := by
      intro c hc
      rw [beq_eq_false_iff_ne]
      rintro rfl
      exact h w List.mem_cons_self hc
    cases ws with
    | nil => rw [join_singleton, splitAll, splitWhere_of_forall hw]; rfl
    | cons v ws =>
      have hrest := ih (List.cons_ne_nil v ws) (fun u hu => h u (List.mem_cons_of_mem _ hu))
      have htext : (join (String.singleton sep) (w :: v :: ws)).toList =
          w.toList ++ sep :: (join (String.singleton sep) (v :: ws)).toList := by
        simp [join_cons_cons]
      rw [htext, splitAll, splitWhere_append hw (by simp), ← splitAll, hrest]
      rfl

end RouterConfig.Text
