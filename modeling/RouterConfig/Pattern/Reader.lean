/-
RouterConfig.Pattern.Reader — patterns from their written form.

The written form is that of regular expressions without look-around and
without references back: groups, alternatives, repetitions, bracketed
classes with set operations, Unicode classes, assertions and inline flags.
`Regex.read?` is `none` for a text that has no reading, and for one whose
pattern is too large. Of the Unicode properties, a pattern may name those
that `propertyNamed?` and `propertyValue?` know.

Both loops below walk the text once and keep what is still open on a list
of frames: groups in the outer loop, brackets in the inner one. Each round
consumes a character, so as many rounds as there are characters suffice.
-/
import RouterConfig.Pattern.Matching
import RouterConfig.Pattern.Property
import RouterConfig.Pattern.Size
import RouterConfig.Text.Integer

namespace RouterConfig.Pattern

/-! ## 1. Flags -/

/-- What inline flags can change. -/
structure Flags where
  /-- Letters match in both cases. -/
  ignoreCase : Bool := false
  /-- `^` and `$` hold at every line. -/
  perLine : Bool := false
  /-- The dot matches a line end too. -/
  dotAll : Bool := false
  /-- A carriage return ends a line too. -/
  returns : Bool := false
  /-- Characters are Unicode characters, not ASCII ones. -/
  unicode : Bool := true
  /-- Blanks and comments between tokens are skipped. -/
  spaced : Bool := false
  deriving DecidableEq, Inhabited, Repr

namespace Flags

/-- The flags with the one of this letter set; `none` when no flag has the letter. -/
def set? (flags : Flags) (letter : Char) (on : Bool) : Option Flags :=
  match letter with
  | 'i' => some { flags with ignoreCase := on }
  | 'm' => some { flags with perLine := on }
  | 's' => some { flags with dotAll := on }
  | 'R' => some { flags with returns := on }
  | 'u' => some { flags with unicode := on }
  | 'x' => some { flags with spaced := on }
  | 'U' => some flags
  | _ => none

/-- The characters that make a word. -/
def wordSet (flags : Flags) : CharSet := if flags.unicode then .word else .asciiWord

/-- Flag letters up to `)` or `:`, with that character and what follows it. A letter occurs once, a
minus sign once and before a letter. -/
def read? (flags : Flags) (seen : List Char) (negated : Bool) :
    List Char → Option (Flags × Char × List Char × Bool)
  | [] => none
  | c :: cs =>
    if c == ')' || c == ':' then
      if seen.head? == some '-' then none else some (flags, c, cs, seen.isEmpty)
    else if seen.contains c then none
    else if c == '-' then read? flags (c :: seen) true cs
    else (flags.set? c !negated).bind fun flags => read? flags (c :: seen) negated cs

end Flags

/-- The text after blanks and comments, when the flags ask to skip them. A comment runs from `#` to
the end of its line. -/
def skipSpaced (flags : Flags) (cs : List Char) : List Char :=
  if flags.spaced then go false cs else cs
where
  /-- Skips on, inside a comment or outside. -/
  go : Bool → List Char → List Char
    | _, [] => []
    | true, c :: cs => go (c != '\n') cs
    | false, c :: cs =>
      if c == '#' then go true cs
      else if Text.isBlank c then go false cs
      else c :: cs

/-! ## 2. Single characters and escapes -/

/-- What one token inside or outside brackets stands for. -/
inductive Atom where
  /-- A character; `byte` when it is written as a two-digit code. -/
  | char (c : Char) (byte : Bool)
  | set (set : CharSet)
  | look (assertion : Assertion)
  deriving Inhabited

/-- The value of a hexadecimal digit. -/
def hexValue? (c : Char) : Option Nat :=
  if c.isDigit then some (c.toNat - 48)
  else if 'a' ≤ c && c ≤ 'f' then some (c.toNat - 87)
  else if 'A' ≤ c && c ≤ 'F' then some (c.toNat - 55)
  else none

/-- The value of a non-empty run of hexadecimal digits. -/
def hexNumber? (cs : List Char) : Option Nat :=
  if cs.isEmpty then none
  else cs.foldl (fun acc c => acc.bind fun n => (hexValue? c).map (16 * n + ·)) (some 0)

/-- The character of a code point. -/
def charOf? (n : Nat) : Option Char := if n.isValidChar then some (Char.ofNat n) else none

/-- A code after `\x`, `\u` or `\U`: digits in braces, or exactly `width` digits. -/
def readCode? (width : Nat) : List Char → Option (Char × Bool × List Char)
  | '\x7b' :: cs => do
    let (digits, rest) ← Text.cut '\x7d' cs
    let c ← charOf? (← hexNumber? digits)
    some (c, false, rest)
  | cs => do
    let digits := cs.take width
    if digits.length != width then none
    else
      let c ← charOf? (← hexNumber? digits)
      some (c, width == 2, cs.drop width)

/-- Characters with a meaning of their own, which a backslash takes away. -/
def isMeta (c : Char) : Bool :=
  ['\\', '.', '+', '*', '?', '(', ')', '|', '[', ']', '\x7b', '\x7d', '^', '$', '#', '&', '-',
    '~'].contains c

/-- The set, folded when the flags ask for both letter cases. -/
def foldIf (flags : Flags) (set : CharSet) : CharSet :=
  if flags.ignoreCase then .folded set else set

/-- Whether a set that stands for bytes holds one that is no ASCII character. -/
def leavesAscii (set : CharSet) : Bool :=
  (List.range 128).any fun n => set.holds (Char.ofNat (n + 128))

/-- A class of characters under the flags: without Unicode it must stay within ASCII. -/
def classSet? (flags : Flags) (set : CharSet) : Option CharSet :=
  if flags.unicode then some set
  else if leavesAscii set then none
  else some (.inter set (.range '\x00' '\x7F'))

/-- The class of one of the letters `d`, `s`, `w`. -/
def letterClass (flags : Flags) (letter : Char) : CharSet :=
  match letter, flags.unicode with
  | 'd', true => .decimal
  | 's', true => .blank
  | _, true => .word
  | 'd', false => .asciiDigit
  | 's', false => .asciiBlank
  | _, false => .asciiWord

/-- A property after `\p` or `\P`. -/
def readProperty? (flags : Flags) (negated : Bool) (cs : List Char) :
    Option (CharSet × List Char) := do
  guard flags.unicode
  let finish (found : Option CharSet) (flip : Bool) (rest : List Char) :
      Option (CharSet × List Char) :=
    found.map fun set =>
      let set := foldIf flags set
      (if negated != flip then .compl set else set, rest)
  match skipSpaced flags cs with
  | '\x7b' :: cs =>
    let (name, rest) ← Text.cut '\x7d' cs
    match splitUnequal name with
    | some (property, value) => finish (propertyValue? property value) true rest
    | none =>
      match (Text.cut ':' name).orElse fun _ => Text.cut '=' name with
      | some (property, value) => finish (propertyValue? property value) false rest
      | none => finish (propertyNamed? name) false rest
  | c :: rest => if c == '\\' then none else finish (categoryNamed? [c]) false rest
  | [] => none
where
  /-- The parts before and after `!=`. -/
  splitUnequal : List Char → Option (List Char × List Char)
    | '!' :: '=' :: cs => some ([], cs)
    | c :: cs => (splitUnequal cs).map fun (a, b) => (c :: a, b)
    | [] => none

/-- The edge that a name in braces after `\b` stands for. A brace that holds no name is none of this
and is left to be read as a repetition. -/
def readEdge? (cs : List Char) : Option (Edge × List Char) :=
  match cs with
  | '\x7b' :: inner =>
    let isNameChar (c : Char) : Bool := c.isAlpha || c == '-'
    match inner with
    | c :: _ =>
      if !isNameChar c then some (.boundary, cs)
      else
        let name := inner.takeWhile isNameChar
        match inner.dropWhile isNameChar with
        | '\x7d' :: rest =>
          match String.ofList name with
          | "start" => some (.start, rest)
          | "end" => some (.finish, rest)
          | "start-half" => some (.startHalf, rest)
          | "end-half" => some (.finishHalf, rest)
          | _ => none
        | _ => none
    | [] => none
  | _ => some (.boundary, cs)

/-- What a backslash and the characters after it stand for. -/
def readEscape? (flags : Flags) : List Char → Option (Atom × List Char)
  | [] => none
  | c :: cs =>
    let one (d : Char) : Option (Atom × List Char) := some (.char d false, cs)
    let edge (kind : Edge) (rest : List Char) : Option (Atom × List Char) :=
      some (.look (.edge kind flags.wordSet), rest)
    let code (width : Nat) : Option (Atom × List Char) :=
      (readCode? width (skipSpaced flags cs)).map fun (d, byte, rest) => (.char d byte, rest)
    if isMeta c then one c
    else match c with
    | 'x' => code 2
    | 'u' => code 4
    | 'U' => code 8
    | 'p' => (readProperty? flags false cs).map fun (set, rest) => (.set set, rest)
    | 'P' => (readProperty? flags true cs).map fun (set, rest) => (.set set, rest)
    | 'd' | 's' | 'w' => some (.set (letterClass flags c), cs)
    | 'D' | 'S' | 'W' => some (.set (.compl (letterClass flags c.toLower)), cs)
    | 'a' => one '\x07'
    | 'f' => one '\x0C'
    | 't' => one '\t'
    | 'n' => one '\n'
    | 'r' => one '\r'
    | 'v' => one '\x0B'
    | 'A' => some (.look .textStart, cs)
    | 'z' => some (.look .textEnd, cs)
    | 'b' => (readEdge? cs).bind fun (kind, rest) => edge kind rest
    | 'B' => edge .inside cs
    | '<' => edge .start cs
    | '>' => edge .finish cs
    | _ => if c.toNat < 0x80 && !c.isAlphanum then one c else none

/-! ## 3. Bracketed classes -/

/-- The ASCII class of a name between `[:` and `:]`. -/
def asciiClass? (name : String) : Option CharSet :=
  match name with
  | "alnum" => some (CharSet.unions [.range '0' '9', .range 'A' 'Z', .range 'a' 'z'])
  | "alpha" => some (.union (.range 'A' 'Z') (.range 'a' 'z'))
  | "ascii" => some (.range '\x00' '\x7F')
  | "blank" => some (.union (.single '\t') (.single ' '))
  | "cntrl" => some (.union (.range '\x00' '\x1F') (.single '\x7F'))
  | "digit" => some (.range '0' '9')
  | "graph" => some (.range '!' '~')
  | "lower" => some (.range 'a' 'z')
  | "print" => some (.range ' ' '~')
  | "punct" =>
    some (CharSet.unions [.range '!' '/', .range ':' '@', .range '[' '\x60', .range '\x7b' '~'])
  | "space" => some .asciiBlank
  | "upper" => some (.range 'A' 'Z')
  | "word" => some .asciiWord
  | "xdigit" => some (CharSet.unions [.range '0' '9', .range 'A' 'F', .range 'a' 'f'])
  | _ => none

/-- An ASCII class `[:name:]` or `[:^name:]` at the start of the text. -/
def readAsciiClass? (flags : Flags) : List Char → Option (CharSet × List Char)
  | '[' :: ':' :: cs => do
    let (negated, cs) := match cs with
      | '^' :: cs => (true, cs)
      | cs => (false, cs)
    let (name, rest) ← Text.cut ':' cs
    let set ← asciiClass? (String.ofList name)
    let set := foldIf flags set
    match rest with
    | ']' :: rest => some (if negated then .compl set else set, rest)
    | _ => none
  | _ => none

/-- Operations between the operands of a bracketed class. -/
inductive SetOp where
  | both
  | less
  | either
  deriving DecidableEq, Inhabited, Repr

/-- The set that an operation makes of two operands. -/
def SetOp.apply (op : SetOp) (a b : CharSet) : CharSet :=
  match op with
  | .both => .inter a b
  | .less => .diff a b
  | .either => .symmetricDiff a b

/-- An open bracket: whether it is negated, the operands before the current one, and the members of
the current one. -/
structure Bracket where
  negated : Bool
  before : Option (SetOp × CharSet)
  members : List CharSet
  deriving Inhabited

namespace Bracket

/-- The bracket with one more member. -/
def add (bracket : Bracket) (set : CharSet) : Bracket :=
  { bracket with members := bracket.members ++ [set] }

/-- What the bracket holds so far, without its negation. -/
def soFar (flags : Flags) (bracket : Bracket) : CharSet :=
  let current := CharSet.unions bracket.members
  match bracket.before with
  | none => current
  | some (op, set) => op.apply (foldIf flags set) (foldIf flags current)

/-- The set of the closed bracket. -/
def close (flags : Flags) (bracket : Bracket) : CharSet :=
  let set := foldIf flags (bracket.soFar flags)
  if bracket.negated then .compl set else set

end Bracket

/-- An open bracket after `[`: its negation, leading hyphens and a leading closing bracket, which
stand for themselves. -/
def openBracket? (flags : Flags) (cs : List Char) : Option (Bracket × List Char) :=
  let (negated, cs) := match skipSpaced flags cs with
    | '^' :: cs => (true, skipSpaced flags cs)
    | cs => (false, cs)
  let hyphens := cs.takeWhile (· == '-')
  let rest := skipSpaced flags (cs.dropWhile (· == '-'))
  let members := hyphens.map CharSet.single
  match rest with
  | [] => none
  | ']' :: after =>
    if hyphens.isEmpty then some (⟨negated, none, [.single ']']⟩, after)
    else some (⟨negated, none, members⟩, rest)
  | _ => some (⟨negated, none, members⟩, rest)

/-- One token inside brackets. -/
def readMember? (flags : Flags) : List Char → Option (Atom × List Char)
  | '\\' :: cs => readEscape? flags cs
  | c :: cs => some (.char c false, cs)
  | [] => none

/-- The character of a token that may bound a range. -/
def boundOf? (flags : Flags) : Atom → Option Char
  | .char c byte => if flags.unicode || byte || c.toNat < 0x80 then some c else none
  | _ => none

/-- A token or a range inside brackets. -/
def readRange? (flags : Flags) (cs : List Char) : Option (CharSet × List Char) := do
  let (first, rest) ← readMember? flags cs
  let rest := skipSpaced flags rest
  let alone : Option (CharSet × List Char) :=
    match first with
    | .set set => some (set, rest)
    | .look _ => none
    | .char .. => (boundOf? flags first).map fun c => (.single c, rest)
  match rest with
  | [] => none
  | '-' :: after =>
    match skipSpaced flags after with
    | [] => none
    | next :: _ =>
      if next == ']' || next == '-' then alone
      else
        let (last, rest) ← readMember? flags (skipSpaced flags after)
        let lo ← boundOf? flags first
        let hi ← boundOf? flags last
        if lo.toNat ≤ hi.toNat then some (.range lo hi, rest) else none
  | _ => alone

/-- The rest of a bracketed class: the brackets open around the current one, and the text after what
has been read of it. -/
def readBrackets? (flags : Flags) : Nat → Bracket → List Bracket → List Char →
    Option (CharSet × List Char)
  | 0, _, _, _ => none
  | fuel + 1, bracket, outer, cs =>
    let operand (op : SetOp) (rest : List Char) : Option (CharSet × List Char) :=
      readBrackets? flags fuel
        { bracket with before := some (op, bracket.soFar flags), members := [] } outer rest
    match skipSpaced flags cs with
    | [] => none
    | '[' :: rest =>
      match readAsciiClass? flags ('[' :: rest) with
      | some (set, rest) => readBrackets? flags fuel (bracket.add set) outer rest
      | none =>
        (openBracket? flags rest).bind fun (inner, rest) =>
          readBrackets? flags fuel inner (bracket :: outer) rest
    | ']' :: rest =>
      let set := bracket.close flags
      match outer with
      | [] => some (set, rest)
      | parent :: outer => readBrackets? flags fuel (parent.add set) outer rest
    | '&' :: '&' :: rest => operand .both rest
    | '-' :: '-' :: rest => operand .less rest
    | '~' :: '~' :: rest => operand .either rest
    | cs =>
      (readRange? flags cs).bind fun (set, rest) =>
        readBrackets? flags fuel (bracket.add set) outer rest

/-- A bracketed class after its `[`. -/
def readClass? (flags : Flags) (cs : List Char) : Option (CharSet × List Char) := do
  let (bracket, rest) ← openBracket? flags cs
  let (set, rest) ← readBrackets? flags (rest.length + 1) bracket [] rest
  let set ← classSet? flags set
  some (set, rest)

/-! ## 4. Repetitions -/

/-- How deep groups and repetitions may nest. -/
def nestLimit : Nat := 250

/-- An item of a sequence: its term and how deep it nests. A change of flags is an item without a
term. -/
structure Item where
  term : Option Regex
  depth : Nat
  deriving Inhabited

/-- The bounds of a counted repetition after its brace. Blanks around the numbers are skipped. -/
def readBounds? (flags : Flags) (cs : List Char) : Option (Nat × Option Nat × List Char) := do
  let (first, rest) ← number (skipSpaced flags cs)
  match rest with
  | '\x7d' :: rest => some (first, some first, rest)
  | ',' :: rest =>
    match skipSpaced flags rest with
    | '\x7d' :: rest => some (first, none, rest)
    | rest =>
      let (last, rest) ← number rest
      match rest with
      | '\x7d' :: rest => if first ≤ last then some (first, some last, rest) else none
      | _ => none
  | _ => none
where
  /-- A number of at most 32 bits with blanks around it. -/
  number (cs : List Char) : Option (Nat × List Char) :=
    let cs := Text.trimStart cs
    ((Text.readDigits (cs.takeWhile Char.isDigit)).filter (· < UInt32.size)).map fun n =>
      (n, Text.trimStart (cs.dropWhile Char.isDigit))

/-- The text after the question mark that may follow a repetition. -/
def skipLazy : List Char → List Char
  | '?' :: cs => cs
  | cs => cs

/-- The items with the last one repeated. -/
def repeatLast? (items : List Item) (least : Nat) (most : Option Nat) : Option (List Item) :=
  match items with
  | ⟨some term, depth⟩ :: items => some (⟨some (.rep term least most), depth + 1⟩ :: items)
  | _ => none

/-! ## 5. Groups and alternatives -/

/-- An open group: the flags to return to, its finished alternatives with their depths, and the
items of the current alternative, last first. -/
structure Group where
  outer : Flags
  branches : List (Regex × Nat)
  items : List Item
  deriving Inhabited

namespace Group

/-- The group with one more item. -/
def add (group : Group) (term : Regex) (depth : Nat) : Group :=
  { group with items := ⟨some term, depth⟩ :: group.items }

/-- The current alternative as one term, with its depth. -/
def branch (group : Group) : Regex × Nat :=
  let terms := group.items.reverse.filterMap (·.term)
  let depth := (group.items.map (·.depth)).foldl max 0
  (.inSequence terms, if group.items.length ≤ 1 then depth else depth + 1)

/-- The group with its current alternative finished. -/
def nextBranch (group : Group) : Group :=
  { group with branches := group.branches ++ [group.branch], items := [] }

/-- The whole group as one term, with its depth. -/
def close (group : Group) : Regex × Nat :=
  let branches := group.branches ++ [group.branch]
  let depth := (branches.map (·.2)).foldl max 0
  (.oneOf (branches.map (·.1)), if branches.length ≤ 1 then depth else depth + 1)

end Group

/-- The name of a group up to its `>`: a letter or underscore, then also digits, dots
and brackets. -/
def readName? (cs : List Char) : Option (List Char × List Char) := do
  let (name, rest) ← Text.cut '>' cs
  let isLetter (c : Char) : Bool := c == '_' || c.isAlpha || (0x80 ≤ c.toNat && Unicode.isWord c)
  let isLater (c : Char) : Bool := isLetter c || c.isDigit || ['.', '[', ']'].contains c
  match name with
  | [] => none
  | first :: later => if isLetter first && later.all isLater then some (name, rest) else none

/-- The dot under the flags. -/
def dotSet? (flags : Flags) : Option CharSet :=
  if !flags.unicode then none
  else if flags.dotAll then some .all
  else if flags.returns then some (.compl (.union (.single '\n') (.single '\r')))
  else some (.compl (.single '\n'))

/-- The assertion of `^` under the flags. -/
def startAssertion (flags : Flags) : Assertion :=
  if !flags.perLine then .textStart else if flags.returns then .returnLineStart else .lineStart

/-- The assertion of `$` under the flags. -/
def endAssertion (flags : Flags) : Assertion :=
  if !flags.perLine then .textEnd else if flags.returns then .returnLineEnd else .lineEnd

/-- The term of a token outside brackets. -/
def atomTerm? (flags : Flags) : Atom → Option Regex
  | .char c byte =>
    if byte && !flags.unicode && 0x80 ≤ c.toNat then none
    else if flags.ignoreCase && (flags.unicode || c.toNat < 0x80) then
      (classSet? flags (if flags.unicode then .folded (.single c)
        else .inter (.folded (.single c)) (.range '\x00' '\x7F'))).map .chars
    else some (.chars (.single c))
  | .set set => (classSet? flags set).map .chars
  | .look a => some (.look a)

/-- What an opening parenthesis opens. -/
inductive Opening where
  /-- A group, under these flags, with the name it defines. -/
  | group (flags : Flags) (name : Option (List Char)) (rest : List Char)
  /-- No group: a change of the flags for the rest of the one around it. -/
  | change (flags : Flags) (rest : List Char)
  deriving Inhabited

/-- What follows an opening parenthesis. -/
def readOpening? (flags : Flags) (cs : List Char) : Option Opening :=
  let named (cs : List Char) : Option Opening :=
    (readName? cs).map fun (name, rest) => .group flags (some name) rest
  match skipSpaced flags cs with
  | '?' :: '=' :: _ => none
  | '?' :: '!' :: _ => none
  | '?' :: '<' :: '=' :: _ => none
  | '?' :: '<' :: '!' :: _ => none
  | '?' :: 'P' :: '<' :: rest => named rest
  | '?' :: '<' :: rest => named rest
  | '?' :: rest =>
    match flags.read? [] false rest with
    | some (flags, ':', rest, _) => some (.group flags none rest)
    | some (flags, _, rest, false) => some (.change flags rest)
    | _ => none
  | rest => some (.group flags none rest)

/-- The rest of a pattern: the current group, the groups around it, and the names taken. -/
def readGroups? : Nat → Flags → Group → List Group → List (List Char) → List Char → Option Regex
  | 0, _, _, _, _, _ => none
  | fuel + 1, flags, group, outer, names, cs =>
    let again (least : Nat) (most : Option Nat) (rest : List Char) : Option Regex :=
      (repeatLast? group.items least most).bind fun items =>
        readGroups? fuel flags { group with items } outer names (skipLazy rest)
    let token (atom : Atom) (rest : List Char) : Option Regex :=
      (atomTerm? flags atom).bind fun term =>
        readGroups? fuel flags (group.add term 0) outer names rest
    match skipSpaced flags cs with
    | [] =>
      match outer with
      | [] =>
        let (term, depth) := group.close
        if depth ≤ nestLimit then some term else none
      | _ :: _ => none
    | '(' :: rest =>
      match readOpening? flags rest with
      | none => none
      | some (.change flags rest) =>
        readGroups? fuel flags { group with items := ⟨none, 0⟩ :: group.items } outer names rest
      | some (.group inner name rest) =>
        let taken := name.any names.contains
        if taken then none
        else readGroups? fuel inner ⟨flags, [], []⟩ (group :: outer) (name.toList ++ names) rest
    | ')' :: rest =>
      match outer with
      | [] => none
      | parent :: outer =>
        let (term, depth) := group.close
        readGroups? fuel group.outer (parent.add term (depth + 1)) outer names rest
    | '|' :: rest => readGroups? fuel flags group.nextBranch outer names rest
    | '[' :: rest =>
      (readClass? flags rest).bind fun (set, rest) =>
        readGroups? fuel flags (group.add (.chars set) 1) outer names rest
    | '?' :: rest => again 0 (some 1) rest
    | '*' :: rest => again 0 none rest
    | '+' :: rest => again 1 none rest
    | '\x7b' :: rest =>
      (readBounds? flags rest).bind fun (least, most, rest) => again least most rest
    | '\\' :: rest => (readEscape? flags rest).bind fun (atom, rest) => token atom rest
    | '.' :: rest => (dotSet? flags).bind fun set => token (.set set) rest
    | '^' :: rest => token (.look (startAssertion flags)) rest
    | '$' :: rest => token (.look (endAssertion flags)) rest
    | c :: rest => token (.char c false) rest

/-! ## 6. Patterns as texts -/

/-- The pattern that a text writes, if it writes one that is not too large. -/
def Regex.read? (text : String) : Option Regex :=
  let cs := text.toList
  (readGroups? (cs.length + 1) {} ⟨{}, [], []⟩ [] [] cs).filter fun r => r.size ≤ Regex.sizeLimit

/-- What the pattern that a text writes says of another text: whether it matches some part of it. -/
def reader (text : String) : Option (String → Bool) := (Regex.read? text).map Regex.isMatch

end RouterConfig.Pattern
