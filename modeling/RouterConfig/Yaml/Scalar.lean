/-
RouterConfig.Yaml.Scalar — scalars as they are written: plain, quoted, and
as blocks of lines.

A plain or quoted scalar may go over several lines. Between two of its
words, one line break counts as a space, and of several breaks all but the
first count as they are.
-/
import RouterConfig.Yaml.Cursor
import RouterConfig.Yaml.Token

namespace RouterConfig.Yaml

/-! ## 1. Gaps -/

/-- The blanks and line breaks between two words of a scalar. -/
structure Gap where
  /-- Whether there is a line break. -/
  broken : Bool := false
  /-- The blanks before the first line break. -/
  blanks : List Char := []
  /-- The first line break. -/
  first : List Char := []
  /-- All further line breaks. -/
  more : List Char := []
  deriving Inhabited, Repr

namespace Gap

/-- Whether there is anything between the words. -/
def isEmpty (gap : Gap) : Bool := !gap.broken && gap.blanks.isEmpty

/-- What the gap counts as. -/
def text (gap : Gap) : List Char :=
  if !gap.broken then gap.blanks
  else if gap.first == ['\n'] then (if gap.more.isEmpty then [' '] else gap.more)
  else gap.first ++ gap.more

/-- Reads the rest of a gap, of at most `fuel` blanks and breaks. On a later line, no tab may stand
left of column `indent`. -/
def read (indent : Nat) : Nat → Gap → Reader Gap
  | 0, gap => return gap
  | fuel + 1, gap => do
    let cursor ← get
    match cursor.rest with
    | [] => return gap
    | c :: _ =>
      if isBlank c then
        guard !(gap.broken && c == '\t' && cursor.column < indent)
        Reader.skip 1
        read indent fuel (if gap.broken then gap else { gap with blanks := gap.blanks ++ [c] })
      else if isBreak c then
        let chars ← Reader.lineBreak
        read indent fuel (if gap.broken then { gap with more := gap.more ++ chars }
          else { broken := true, first := chars })
      else return gap

end Gap

/-! ## 2. Plain scalars -/

namespace Plain

/-- Whether a colon inside brackets stands before a character that it must not stand before. -/
def isStrayColon : List Char → Bool
  | ':' :: c :: _ => [',', '?', '[', ']', '\x7b', '\x7d'].contains c
  | _ => false

/-- Whether a scalar ends before these characters: at a colon that ends a word and, inside brackets,
at a bracket or a comma. -/
def endsScalar (inFlow : Bool) : List Char → Bool
  | [] => true
  | c :: cs =>
    (c == ':' && endsWord cs) ||
    (inFlow && [',', '[', ']', '\x7b', '\x7d'].contains c)

/-- Reads the characters of a word, none of them blank, from last to first. -/
def word (inFlow : Bool) : List Char → List Char → Option (List Char)
  | chars, [] => some chars
  | chars, c :: cs =>
    if isBlank c || isBreak c then some chars
    else if inFlow && isStrayColon (c :: cs) then none
    else if endsScalar inFlow (c :: cs) then some chars
    else word inFlow (c :: chars) cs

/-- Reads the rest of a scalar, given the text before it and the gap between that and the place. The
answer says whether the scalar is followed by a line break. -/
def words (inFlow : Bool) (indent : Nat) : Nat → List Char → Gap → Reader (List Char × Bool)
  | 0, text, gap => return (text, gap.broken)
  | fuel + 1, text, gap => do
    let cursor ← get
    if cursor.atDocumentMark || cursor.at? '#' then return (text, gap.broken)
    let chars ← word inFlow [] cursor.rest
    Reader.skip chars.length
    let (text, broken) :=
      if chars.isEmpty then (text, gap.broken) else (text ++ gap.text ++ chars.reverse, false)
    match (← get).rest with
    | [] => return (text, broken)
    | c :: rest =>
      if !(isBlank c || isBreak c) then return (text, broken)
      let gap ← Gap.read indent (rest.length + 1) {}
      if !inFlow && (← get).column < indent then return (text, gap.broken)
      words inFlow indent fuel text gap

/-- Reads a plain scalar whose lines stand at column `indent` or further. The answer says whether it
is followed by a line break. -/
def read (inFlow : Bool) (indent : Nat) : Reader (String × Bool) := do
  let (text, broken) ← words inFlow indent ((← get).rest.length + 1) [] {}
  return (String.ofList text, broken)

end Plain

/-! ## 3. Quoted scalars -/

namespace Quoted

/-- The character that a letter stands for after a backslash. -/
def escape? : Char → Option Char
  | '0' => some '\x00'
  | 'a' => some '\x07'
  | 'b' => some '\x08'
  | 't' => some '\t'
  | '\t' => some '\t'
  | 'n' => some '\n'
  | 'v' => some '\x0B'
  | 'f' => some '\x0C'
  | 'r' => some '\r'
  | 'e' => some '\x1B'
  | ' ' => some ' '
  | '\x22' => some '\x22'
  | '/' => some '/'
  | '\\' => some '\\'
  | 'N' => some '\u0085'
  | '_' => some '\u00A0'
  | 'L' => some '\u2028'
  | 'P' => some '\u2029'
  | _ => none

/-- How many digits of a code point follow a letter after a backslash. -/
def codeLength? : Char → Option Nat
  | 'x' => some 2
  | 'u' => some 4
  | 'U' => some 8
  | _ => none

/-- The character whose code point has these digits. -/
def ofCode? (digits : List Char) : Option Char := do
  let values ← digits.mapM hexDigit?
  let n := values.foldl (fun n d => n * 16 + d) 0
  if n.isValidChar then some (Char.ofNat n) else none

/-- Reads what follows a backslash. -/
def escaped : Reader Char := do
  match ← Reader.rest with
  | [] => failure
  | c :: cs =>
    match escape? c, codeLength? c with
    | some char, _ =>
      Reader.skip 1
      return char
    | none, some n =>
      guard (n ≤ cs.length)
      Reader.skip (n + 1)
      ofCode? (cs.take n)
    | none, none => failure

/-- What ends a run of characters in a quoted scalar. -/
inductive Stop where
  /-- The closing quote, or a blank or break. -/
  | plain
  /-- A line break after a backslash, which counts as nothing. -/
  | escapedBreak
  deriving DecidableEq, Inhabited, Repr

/-- Reads characters up to the closing quote, a blank or a break, and puts them behind `text`, whose
characters go from last to first. -/
def chars (quote : Char) : Nat → List Char → Reader (List Char × Stop)
  | 0, text => return (text, .plain)
  | fuel + 1, text => do
    match ← Reader.rest with
    | [] => return (text, .plain)
    | c :: cs =>
      if isBlank c || isBreak c then return (text, .plain)
      else if c == '\'' && quote == '\'' && cs.head? == some '\'' then
        Reader.skip 2
        chars quote fuel ('\'' :: text)
      else if c == quote then return (text, .plain)
      else if c == '\\' && quote == '\x22' then
        Reader.skip 1
        if !cs.isEmpty && endsLine cs then
          discard Reader.lineBreak
          return (text, .escapedBreak)
        let char ← escaped
        chars quote fuel (char :: text)
      else
        Reader.skip 1
        chars quote fuel (c :: text)

/-- Reads the rest of a scalar up to its closing quote, given the text before it. -/
def words (quote : Char) : Nat → List Char → Reader (List Char)
  | 0, _ => failure
  | fuel + 1, text => do
    let cursor ← get
    guard !(cursor.atDocumentMark || cursor.atEnd)
    let (chars, stop) ← chars quote (cursor.rest.length + 1) []
    let text := text ++ chars.reverse
    let cursor ← get
    if cursor.at? quote then return text
    let gap ← Gap.read 0 (cursor.rest.length + 1) { broken := stop = .escapedBreak }
    words quote fuel (text ++ gap.text)

/-- Reads a scalar between two of these quotes. -/
def read (quote : Char) : Reader String := do
  Reader.expect quote
  let text ← words quote ((← get).rest.length + 1) []
  Reader.expect quote
  return String.ofList text

end Quoted

/-! ## 4. Blocks -/

namespace Block

/-- What happens to the line breaks at the end of a block. -/
inductive Chomping where
  /-- All go. -/
  | strip
  /-- The first stays. -/
  | clip
  /-- All stay. -/
  | keep
  deriving DecidableEq, Inhabited, Repr

/-- Reads a sign that says what happens to the line breaks at the end. -/
def chomping? : Reader (Option Chomping) := do
  match ← Reader.rest with
  | '+' :: _ =>
    Reader.skip 1
    return some .keep
  | '-' :: _ =>
    Reader.skip 1
    return some .strip
  | _ => return none

/-- Reads a digit that says how far the block is indented; it is not zero. -/
def indentation? : Reader (Option Nat) := do
  match ← Reader.rest with
  | c :: _ =>
    if c.isDigit then
      guard (c != '0')
      Reader.skip 1
      return some (c.toNat - '0'.toNat)
    else return none
  | [] => return none

/-- Reads the two signs of a block, which may come in either order. -/
def header : Reader (Chomping × Option Nat) := do
  match ← chomping? with
  | some chomping => return (chomping, ← indentation?)
  | none =>
    let indentation ← indentation?
    match indentation with
    | none => return (.clip, none)
    | some _ => return ((← chomping?).getD .clip, indentation)

/-- Reads indentation and empty lines. With no `indent` yet, all spaces count as indentation. The
answer is the line breaks and the widest indentation. -/
def emptyLines (indent : Option Nat) : Nat → List Char → Nat → Reader (List Char × Nat)
  | 0, breaks, widest => return (breaks, widest)
  | fuel + 1, breaks, widest => do
    let before ← get
    let spaces := (before.rest.takeWhile (· == ' ')).length
    Reader.skip (match indent with
      | none => spaces
      | some n => min spaces (n - before.column))
    let cursor ← get
    let widest := max widest cursor.column
    guard !(cursor.at? '\t' && indent.all (cursor.column < ·))
    if !cursor.rest.isEmpty && endsLine cursor.rest then
      let chars ← Reader.lineBreak
      emptyLines indent fuel (breaks ++ chars) widest
    else return (breaks, widest)

/-- Reads lines at column `indent`, given the text before them, the line break that ends it, and
the empty lines after that. `indentedLine` says whether the line before begins with a blank: around
such lines nothing is folded. The answer is the text, its last line break and the empty lines at
its end. -/
def lines (fold : Bool) (indent : Nat) :
    Nat → List Char → List Char → List Char → Bool → Reader (List Char × List Char × List Char)
  | 0, text, last, empty, _ => return (text, last, empty)
  | fuel + 1, text, last, empty, indentedLine => do
    let cursor ← get
    if cursor.column != indent || cursor.atEnd then return (text, last, empty)
    let indented := cursor.rest.head?.any isBlank
    let joint :=
      if fold && last == ['\n'] && !indentedLine && !indented then
        (if empty.isEmpty then [' '] else [])
      else last
    let chars ← Reader.run (!isBreak ·)
    let newLast ← Reader.lineBreak
    let (newEmpty, _) ← emptyLines (some indent) ((← get).rest.length + 1) [] 0
    lines fold indent fuel (text ++ joint ++ empty ++ chars) newLast newEmpty indented

/-- Reads a block below an indentation of `outer`, which is -1 outside all blocks. -/
def read (fold : Bool) (outer : Int) : Reader String := do
  Reader.skip 1
  let (chomping, indentation) ← header
  Reader.skipWhile isBlank
  Reader.skipComment
  guard (endsLine (← Reader.rest))
  discard Reader.lineBreak
  let given := indentation.map fun n => (if outer ≥ 0 then outer.toNat + n else n)
  let fuel := (← get).rest.length + 1
  let (empty, widest) ← emptyLines given fuel [] 0
  let indent := given.getD (max widest (max (outer + 1).toNat 1))
  let (text, last, empty) ← lines fold indent fuel [] [] empty false
  return String.ofList (match chomping with
    | .strip => text
    | .clip => text ++ last
    | .keep => text ++ last ++ empty)

end Block

end RouterConfig.Yaml
