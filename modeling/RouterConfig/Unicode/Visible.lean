/-
RouterConfig.Unicode.Visible — which characters can be shown as they are.

A character is visible unless it is a control or format character, a
separator other than the plain space, private or unassigned, or an extender
that attaches itself to the character before it.
-/
import RouterConfig.Unicode.Category

namespace RouterConfig.Unicode

/-- Extenders of the preceding character that are no marks by category. -/
def extenderRanges : List (Nat × Nat) :=
  [(0x9BE, 0x9BE), (0x9D7, 0x9D7), (0xB3E, 0xB3E), (0xB57, 0xB57), (0xBBE, 0xBBE), (0xBD7, 0xBD7),
   (0xCC2, 0xCC2), (0xCD5, 0xCD6), (0xD3E, 0xD3E), (0xD57, 0xD57), (0xDCF, 0xDCF), (0xDDF, 0xDDF),
   (0x1B35, 0x1B35), (0x200C, 0x200C), (0x302E, 0x302F), (0xFF9E, 0xFF9F), (0x1133E, 0x1133E),
   (0x11357, 0x11357), (0x114B0, 0x114B0), (0x114BD, 0x114BD), (0x115AF, 0x115AF),
   (0x11930, 0x11930), (0x1D165, 0x1D165), (0x1D16E, 0x1D172), (0xE0020, 0xE007F)]

/-- Whether a character attaches itself to the one before it. -/
def isExtender (c : Char) : Bool :=
  Category.nonspacing.holds c || Category.enclosing.holds c ||
  Category.inRanges extenderRanges c.toNat

/-- The categories whose characters leave no mark of their own. -/
def blankCategories : List Category :=
  [.control, .format, .privateUse, .unassigned, .lineSeparator, .paragraphSeparator, .space]

/-- Whether a character is shown as it is. -/
def isVisible (c : Char) : Bool :=
  if c.toNat < 0x7F then 0x20 ≤ c.toNat
  else !(blankCategories.any (·.holds c)) && !isExtender c

end RouterConfig.Unicode
