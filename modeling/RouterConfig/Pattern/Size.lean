/-
RouterConfig.Pattern.Size — how much an automaton for a pattern takes.

A counted repetition is as large as its rounds together, so a short text
can write a pattern that no memory holds. Such a pattern is refused. The
size is counted for an automaton that reads bytes: a step for each byte,
and for a class as many as its ranges need. Classes beyond ASCII are
counted by the number of their ranges.
-/
import RouterConfig.Pattern.Basic

namespace RouterConfig.Pattern

namespace CharSet

/-- Whether a set is described by ASCII characters alone. -/
def withinAscii : CharSet → Bool
  | .none => true
  | .range _ hi => hi.toNat < 0x80
  | .listed ranges => ranges.all fun r => r.2 < 0x80
  | .decimal | .blank | .word | .category _ | .compl _ => false
  | .union a b => a.withinAscii && b.withinAscii
  | .inter a b => a.withinAscii || b.withinAscii
  | .diff a _ => a.withinAscii
  | .folded a => a.withinAscii

/-- About how many ranges a set has. Neighbours join, so that classes put together stay
below 800. -/
def rangeCount : CharSet → Nat
  | .none => 0
  | .range .. => 1
  | .listed ranges => ranges.length
  | .decimal => Unicode.Category.decimal.ranges.length
  | .blank => 10
  | .word => 770
  | .category g => g.ranges.length
  | .union a b | .inter a b | .diff a b => min 800 (a.rangeCount + b.rangeCount)
  | .compl a => a.rangeCount + 1
  | .folded a => min 800 (2 * a.rangeCount)

/-- The bytes that a step through a set takes. -/
def size : CharSet → Nat
  | .range lo hi => if lo = hi then 32 * lo.utf8Size else wide (.range lo hi)
  | set => wide set
where
  /-- A fork and a join around the ranges of a set of several characters. -/
  wide (set : CharSet) : Nat :=
    if set.withinAscii then 64 + 8 * set.rangeCount else 900 + 60 * set.rangeCount

end CharSet

namespace Regex

/-- Whether the term matches no text but the empty one. -/
def consumesNothing : Regex → Bool
  | .empty | .look _ => true
  | .chars _ => false
  | .seq a b | .alt a b => a.consumesNothing && b.consumesNothing
  | .rep a _ most => a.consumesNothing || most == some 0

/-- The bytes that an automaton for the term takes. -/
def size : Regex → Nat
  | .empty | .look _ => 32
  | .chars set => set.size
  | .seq a b => a.size + b.size
  | .alt a b => 40 + a.size + b.size
  | .rep a least most =>
    if a.consumesNothing then a.size
    else match most with
    | some most => most * a.size + (if least < most then 32 + (most - least) * 40 else 0)
    | none => 40 + max least 1 * a.size

/-- The most bytes that an automaton may take. -/
def sizeLimit : Nat := 10 * 1024 * 1024

end Regex

end RouterConfig.Pattern
