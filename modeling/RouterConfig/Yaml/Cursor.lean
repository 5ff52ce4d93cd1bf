/-
RouterConfig.Yaml.Cursor — the characters of a YAML text, and a place in
such a text.

The layout of a YAML text matters, so a place knows its line and column
beside the characters that follow it.
-/

namespace RouterConfig.Yaml

/-! ## 1. Characters -/

/-- Whether a text may hold the character. -/
def isAllowed (c : Char) : Bool :=
  let n := c.toNat
  n == 0x09 || n == 0x0A || n == 0x0D || (0x20 ≤ n && n ≤ 0x7E) || n == 0x85 ||
  (0xA0 ≤ n && n ≤ 0xD7FF) || (0xE000 ≤ n && n ≤ 0xFFFD) || 0x10000 ≤ n

/-- The mark that may stand before a text, and at the start of a line. -/
def orderMark : Char := '\uFEFF'

/-- A space or a tab. -/
def isBlank (c : Char) : Bool := c == ' ' || c == '\t'

/-- A character that ends a line. -/
def isBreak (c : Char) : Bool :=
  c == '\r' || c == '\n' || c == '\u0085' || c == '\u2028' || c == '\u2029'

/-- A character of a name: an ASCII letter or digit, a dash or an underscore. -/
def isNameChar (c : Char) : Bool := c.isAlphanum || c == '-' || c == '_'

/-- Whether a word ends before these characters: at a blank, a break or the end of the text. -/
def endsWord : List Char → Bool
  | [] => true
  | c :: _ => isBlank c || isBreak c

/-- Whether a line ends before these characters. -/
def endsLine : List Char → Bool
  | [] => true
  | c :: _ => isBreak c

/-- The value of a hexadecimal digit. -/
def hexDigit? (c : Char) : Option Nat :=
  if '0' ≤ c && c ≤ '9' then some (c.toNat - '0'.toNat)
  else if 'a' ≤ c && c ≤ 'f' then some (c.toNat - 'a'.toNat + 10)
  else if 'A' ≤ c && c ≤ 'F' then some (c.toNat - 'A'.toNat + 10)
  else none

/-! ## 2. Places -/

/-- A place in a text. -/
structure Cursor where
  /-- The characters that follow. -/
  rest : List Char
  /-- How many characters stand before the place. -/
  index : Nat := 0
  line : Nat := 0
  column : Nat := 0
  deriving Inhabited, Repr

namespace Cursor

/-- The place `n` characters on, none of which ends a line. -/
def advance (cursor : Cursor) (n : Nat) : Cursor :=
  { cursor with
    rest := cursor.rest.drop n
    index := cursor.index + n
    column := cursor.column + n }

/-- The place after a line break of `n` characters. -/
def newLine (cursor : Cursor) (n : Nat) : Cursor :=
  { rest := cursor.rest.drop n, index := cursor.index + n, line := cursor.line + 1, column := 0 }

/-- Whether `c` stands at the place. -/
def at? (cursor : Cursor) (c : Char) : Bool := cursor.rest.head? == some c

/-- Whether nothing follows. -/
def atEnd (cursor : Cursor) : Bool := cursor.rest.isEmpty

/-- Whether the text of this mark stands at the start of a line, as a word of its own. -/
def atMark (cursor : Cursor) (mark : List Char) : Bool :=
  cursor.column == 0 && mark.isPrefixOf cursor.rest && endsWord (cursor.rest.drop mark.length)

/-- Whether a document starts or ends here. -/
def atDocumentMark (cursor : Cursor) : Bool :=
  cursor.atMark ['-', '-', '-'] || cursor.atMark ['.', '.', '.']

end Cursor

/-! ## 3. Reading -/

/-- Reads from a place on, or finds that the text is not YAML. -/
abbrev Reader := StateT Cursor Option

namespace Reader

/-- The characters that follow. -/
def rest : Reader (List Char) := return (← get).rest

/-- Passes over `n` characters, none of which ends a line. -/
def skip (n : Nat) : Reader Unit := modify (·.advance n)

/-- Reads the longest run of such characters, none of which ends a line. -/
def run (p : Char → Bool) : Reader (List Char) := do
  let chars := (← rest).takeWhile p
  skip chars.length
  return chars

/-- Passes over such characters, none of which ends a line. -/
def skipWhile (p : Char → Bool) : Reader Unit := discard (run p)

/-- Reads a line break, if there is one. Every break is read as a newline, but for the line and the
paragraph separator, which stand for themselves. -/
def lineBreak : Reader (List Char) := do
  match ← rest with
  | '\r' :: '\n' :: _ =>
    modify (·.newLine 2)
    return ['\n']
  | c :: _ =>
    if isBreak c then
      modify (·.newLine 1)
      return if c == '\u2028' || c == '\u2029' then [c] else ['\n']
    else return []
  | [] => return []

/-- Passes over a comment, which extends to the end of the line. -/
def skipComment : Reader Unit := do
  if (← get).at? '#' then skipWhile (!isBreak ·)

/-- Demands this character. -/
def expect (c : Char) : Reader Unit := do
  guard ((← get).at? c)
  skip 1

end Reader

end RouterConfig.Yaml
