/-
RouterConfig.Pattern.CharSet — sets of characters as a pattern describes
them.

A set is a term: ranges and Unicode classes at the leaves, set algebra
above. It is never expanded, so a class of a hundred thousand characters
costs as much as its name.
-/
import RouterConfig.Text.Basic
import RouterConfig.Unicode.Folding
import RouterConfig.Unicode.Word

namespace RouterConfig.Pattern

/-- A set of characters. -/
inductive CharSet where
  /-- No character. -/
  | none
  /-- The characters from `lo` to `hi`, both included. -/
  | range (lo hi : Char)
  /-- The code points that a table lists. -/
  | listed (ranges : List (Nat × Nat))
  /-- Decimal digits of every script. -/
  | decimal
  /-- White space. -/
  | blank
  /-- Letters, marks, decimal digits and connectors. -/
  | word
  /-- The characters of a general category. -/
  | category (category : Unicode.Category)
  | union (a b : CharSet)
  | inter (a b : CharSet)
  | diff (a b : CharSet)
  | compl (a : CharSet)
  /-- The characters of a set and their counterparts in the other letter case. -/
  | folded (a : CharSet)
  deriving DecidableEq, Inhabited, Repr

namespace CharSet

/-- Whether a set holds a character. -/
def holds : CharSet → Char → Bool
  | .none, _ => false
  | .range lo hi, c => lo.toNat ≤ c.toNat && c.toNat ≤ hi.toNat
  | .listed ranges, c => Unicode.Category.inRanges ranges c.toNat
  | .decimal, c => Unicode.isDecimal c
  | .blank, c => Text.isBlank c
  | .word, c => Unicode.isWord c
  | .category g, c => g.holds c
  | .union a b, c => a.holds c || b.holds c
  | .inter a b, c => a.holds c && b.holds c
  | .diff a b, c => a.holds c && !b.holds c
  | .compl a, c => !a.holds c
  | .folded a, c => a.holds c || (Unicode.counterparts c).any a.holds

/-- The set of one character. -/
def single (c : Char) : CharSet := .range c c

/-- Every character. -/
def all : CharSet := .compl .none

/-- The union of several sets. -/
def unions : List CharSet → CharSet
  | [] => .none
  | [a] => a
  | a :: b :: rest => .union a (unions (b :: rest))

/-- What exactly one of two sets holds. -/
def symmetricDiff (a b : CharSet) : CharSet := .union (.diff a b) (.diff b a)

/-- The ASCII digits. -/
def asciiDigit : CharSet := .range '0' '9'

/-- The ASCII letters, digits and the underscore. -/
def asciiWord : CharSet :=
  unions [.range '0' '9', .range 'A' 'Z', .single '_', .range 'a' 'z']

/-- ASCII white space: tab to carriage return, and the space. -/
def asciiBlank : CharSet := .union (.range '\t' '\r') (.single ' ')

@[simp] theorem holds_single (c d : Char) : (single c).holds d = true ↔ d = c := by
  simp only [single, holds, Bool.and_eq_true, decide_eq_true_eq]
  refine ⟨fun ⟨h1, h2⟩ => Char.toNat_inj.mp (Nat.le_antisymm h2 h1), ?_⟩
  rintro rfl
  exact ⟨Nat.le_refl _, Nat.le_refl _⟩

@[simp] theorem holds_all (c : Char) : all.holds c = true := rfl

end CharSet

end RouterConfig.Pattern
