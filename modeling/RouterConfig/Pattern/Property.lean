/-
RouterConfig.Pattern.Property — Unicode properties by the names that a
pattern may use for them.

Names are compared in lower case without blanks, hyphens and underscores,
and without a leading `is`.
-/
import RouterConfig.Pattern.CharSet
import RouterConfig.Unicode.Script

namespace RouterConfig.Pattern

open Unicode (Category)

/-- A property name in the form in which names are compared. -/
def normalName (name : List Char) : List Char :=
  let plain := (name.filter fun c => !(c == ' ' || c == '-' || c == '_')).map Char.toLower
  match plain with
  | ['i', 's', 'c'] => plain
  | 'i' :: 's' :: rest => rest
  | _ => plain

/-- The set of several general categories. -/
def categories (cs : List Category) : CharSet := CharSet.unions (cs.map .category)

/-- Groups of general categories, and further names of single ones. -/
def categoryGroups : List (List String × List Category) :=
  [(["L", "Letter"], [.upper, .lower, .title, .modifierLetter, .otherLetter]),
   (["LC", "Cased_Letter"], [.upper, .lower, .title]),
   (["M", "Mark", "Combining_Mark"], [.nonspacing, .spacing, .enclosing]),
   (["N", "Number"], [.decimal, .letterNumber, .otherNumber]),
   (["P", "Punctuation", "punct"],
     [.connector, .dash, .openPunctuation, .closePunctuation, .initialPunctuation,
      .finalPunctuation, .otherPunctuation]),
   (["S", "Symbol"], [.mathSymbol, .currencySymbol, .modifierSymbol, .otherSymbol]),
   (["Z", "Separator"], [.space, .lineSeparator, .paragraphSeparator]),
   (["C", "Other"], [.control, .format, .privateUse, .unassigned]),
   (["digit"], [.decimal]),
   (["cntrl"], [.control])]

/-- The characters of a general category, by name. -/
def categoryNamed? (name : List Char) : Option CharSet :=
  let name := normalName name
  let isNamed (other : String) : Bool := normalName other.toList == name
  if name == "any".toList then some .all
  else if name == "ascii".toList then some (.range '\x00' '\x7F')
  else if name == "assigned".toList then some (.compl (.category .unassigned))
  else
    match categoryGroups.find? fun (names, _) => names.any isNamed with
    | some (_, members) => some (categories members)
    | none =>
      ((Category.unassigned :: Category.assigned).find?
        fun g => isNamed g.short || isNamed g.long).map .category

/-- The characters of a script, by name. -/
def scriptNamed? (name : List Char) : Option CharSet :=
  let name := normalName name
  (Unicode.scripts.find? fun s => s.names.any fun other => normalName other.toList == name).map
    fun s => .listed s.ranges

/-- The characters of a property that a character has or lacks, by name. -/
def binaryNamed? (name : List Char) : Option CharSet :=
  let name := normalName name
  let isOneOf (others : List String) : Bool := others.any fun o => normalName o.toList == name
  if isOneOf ["Alphabetic", "Alpha"] then
    some (.union (categories [.upper, .lower, .title, .modifierLetter, .otherLetter, .letterNumber])
      (.listed Unicode.otherAlphabeticRanges))
  else if isOneOf ["Lowercase", "Lower"] then
    some (.union (.category .lower) (.listed Unicode.otherLowercaseRanges))
  else if isOneOf ["Uppercase", "Upper"] then
    some (.union (.category .upper) (.listed Unicode.otherUppercaseRanges))
  else if isOneOf ["White_Space", "WSpace", "Space"] then some .blank
  else none

/-- The characters of a property given by one name. -/
def propertyNamed? (name : List Char) : Option CharSet :=
  (binaryNamed? name).orElse fun _ => (categoryNamed? name).orElse fun _ => scriptNamed? name

/-- The characters for which the named property has the value. -/
def propertyValue? (property value : List Char) : Option CharSet :=
  let property := normalName property
  if property == "gc".toList || property == "generalcategory".toList then categoryNamed? value
  else if property == "sc".toList || property == "script".toList then scriptNamed? value
  else none

end RouterConfig.Pattern
