/-
RouterConfig.Pattern.Matching — whether a pattern matches somewhere in a
text.

The matcher takes partial derivatives: after a character, a term leaves a
list of terms, any of which may match the rest. A derivative looks at the
character before and the character consumed, which is all that an assertion
needs. The search adds the whole pattern again at every place, so the match
may start anywhere, and stops at the first place where a term left over
matches the empty text.
-/
import RouterConfig.Pattern.Basic

namespace RouterConfig.Pattern

namespace Regex

/-- Whether the term matches the empty text between two neighbours. -/
def matchesEmpty (before after : Option Char) : Regex → Bool
  | .empty => true
  | .chars _ => false
  | .look a => a.holds before after
  | .seq a b => a.matchesEmpty before after && b.matchesEmpty before after
  | .alt a b => a.matchesEmpty before after || b.matchesEmpty before after
  | .rep a least _ => least == 0 || a.matchesEmpty before after

/-- The terms left after the term has consumed `c`, where `before` stands before `c`. Of a
repetition one round is under way; rounds that match the empty text here count at once. -/
def derive (before : Option Char) (c : Char) : Regex → List Regex
  | .empty => []
  | .chars set => if set.holds c then [.empty] else []
  | .look _ => []
  | .seq a b =>
    (a.derive before c).map (·.andThen b) ++
      (if a.matchesEmpty before (some c) then b.derive before c else [])
  | .alt a b => a.derive before c ++ b.derive before c
  | .rep a least most =>
    if most == some 0 then []
    else
      let least := if a.matchesEmpty before (some c) then 0 else least - 1
      let again := match most.map (· - 1) with
        | some 0 => .empty
        | most => .rep a least most
      (a.derive before c).map (·.andThen again)

/-- The terms without repetition. -/
def distinct : List Regex → List Regex
  | [] => []
  | a :: rest =>
    let rest := distinct rest
    if rest.contains a then rest else a :: rest

/-- Search from the place after `before`, with the terms under way. -/
def searchFrom (whole : Regex) (before : Option Char) (states : List Regex) : List Char → Bool
  | [] => (whole :: states).any (·.matchesEmpty before none)
  | c :: cs =>
    let states := whole :: states
    states.any (·.matchesEmpty before (some c)) ||
      searchFrom whole (some c) (distinct (states.flatMap (·.derive before c))) cs

/-- Whether the pattern matches some part of the text. -/
def isMatch (whole : Regex) (text : String) : Bool := searchFrom whole none [] text.toList

end Regex

end RouterConfig.Pattern
