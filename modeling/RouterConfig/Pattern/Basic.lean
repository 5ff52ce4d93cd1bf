/-
RouterConfig.Pattern.Basic — patterns as terms, and the assertions that a
pattern may make about a place in the text.
-/
import RouterConfig.Pattern.CharSet

namespace RouterConfig.Pattern

/-! ## 1. Places in a text -/

/-- How a place stands between word characters and others. -/
inductive Edge where
  /-- A word character on exactly one side. -/
  | boundary
  /-- Word characters on both sides or on neither. -/
  | inside
  /-- No word character before, one after. -/
  | start
  /-- A word character before, none after. -/
  | finish
  /-- No word character before. -/
  | startHalf
  /-- No word character after. -/
  | finishHalf
  deriving DecidableEq, Inhabited, Repr

/-- Whether an edge is there, from what stands on either side. -/
def Edge.holds (edge : Edge) (before after : Bool) : Bool :=
  match edge with
  | .boundary => before != after
  | .inside => before == after
  | .start => !before && after
  | .finish => before && !after
  | .startHalf => !before
  | .finishHalf => !after

/-- A condition on a place between two characters of a text. -/
inductive Assertion where
  | textStart
  | textEnd
  /-- The start of the text or the place after a newline. -/
  | lineStart
  /-- The end of the text or the place before a newline. -/
  | lineEnd
  /-- As `lineStart`, where a carriage return also ends a line and a return with a newline is one
  end. -/
  | returnLineStart
  /-- As `lineEnd`, where a carriage return also ends a line and a return with a newline is one
  end. -/
  | returnLineEnd
  /-- A word edge, for words made of `letters`. -/
  | edge (kind : Edge) (letters : CharSet)
  deriving DecidableEq, Inhabited, Repr

/-- Whether an assertion holds between two neighbours; `none` is an end of the text. -/
def Assertion.holds (assertion : Assertion) (before after : Option Char) : Bool :=
  match assertion with
  | .textStart => before.isNone
  | .textEnd => after.isNone
  | .lineStart => before.isNone || before == some '\n'
  | .lineEnd => after.isNone || after == some '\n'
  | .returnLineStart =>
    before.isNone || before == some '\n' || (before == some '\r' && after != some '\n')
  | .returnLineEnd =>
    after.isNone || after == some '\r' || (after == some '\n' && before != some '\r')
  | .edge kind letters => kind.holds (before.any letters.holds) (after.any letters.holds)

/-! ## 2. Terms -/

/-- A pattern. -/
inductive Regex where
  /-- The empty text. -/
  | empty
  /-- One character of a set. -/
  | chars (set : CharSet)
  /-- The empty text at a place where the assertion holds. -/
  | look (assertion : Assertion)
  | seq (a b : Regex)
  | alt (a b : Regex)
  /-- At least `least` and, with a limit, at most `most` repetitions. -/
  | rep (a : Regex) (least : Nat) (most : Option Nat)
  deriving DecidableEq, Inhabited, Repr

namespace Regex

/-- One term after another; the empty text is left out. -/
def andThen (a b : Regex) : Regex :=
  match a, b with
  | .empty, b => b
  | a, .empty => a
  | a, b => .seq a b

/-- The terms in sequence. -/
def inSequence : List Regex → Regex
  | [] => .empty
  | [a] => a
  | a :: b :: rest => .seq a (inSequence (b :: rest))

/-- The terms as alternatives; no alternative at all matches nothing. -/
def oneOf : List Regex → Regex
  | [] => .chars .none
  | [a] => a
  | a :: b :: rest => .alt a (oneOf (b :: rest))

end Regex

end RouterConfig.Pattern
