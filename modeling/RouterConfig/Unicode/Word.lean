/-
RouterConfig.Unicode.Word — decimal digits and word characters.

Below U+0080 both classes are decided by hand, so that a statement about
ASCII text never meets a table.
-/
import RouterConfig.Unicode.Category

namespace RouterConfig.Unicode

/-- Whether a character is a decimal digit of some script. -/
def isDecimal (c : Char) : Bool :=
  if c.toNat < 0x80 then c.isDigit else Category.decimal.holds c

/-- Word characters that have no category of word characters: enclosed letters and joiners. -/
def extraWordRanges : List (Nat × Nat) :=
  [(0x200C, 0x200D), (0x24B6, 0x24E9), (0x1F130, 0x1F149), (0x1F150, 0x1F169), (0x1F170, 0x1F189)]

/-- Whether a character is an ASCII letter, an ASCII digit or the underscore. -/
def isAsciiWord (c : Char) : Bool := c.isAlphanum || c == '_'

/-- Whether a character is a letter, a mark, a decimal digit or a connector. -/
def isWord (c : Char) : Bool :=
  if c.toNat < 0x80 then isAsciiWord c
  else
    [Category.lower, .upper, .otherLetter, .title, .modifierLetter, .letterNumber, .nonspacing,
      .spacing, .enclosing, .decimal, .connector].any (·.holds c) ||
    Category.inRanges extraWordRanges c.toNat

/-- Below U+0080 the decimal digits are the ASCII digits. -/
theorem isDecimal_of_ascii {c : Char} (h : c.toNat < 0x80) : isDecimal c = c.isDigit := by
  simp [isDecimal, h]

end RouterConfig.Unicode
