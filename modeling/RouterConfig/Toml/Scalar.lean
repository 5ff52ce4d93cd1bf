/-
RouterConfig.Toml.Scalar — the scalars of a TOML text: strings in their
four notations, truth values, numbers, dates and times.
-/
import RouterConfig.Toml.Item
import RouterConfig.Text.Number

namespace RouterConfig.Toml

/-- Reads characters, or finds that the text is not TOML. -/
abbrev Reader := StateT (List Char) Option

namespace Reader

/-! ## 1. Characters -/

/-- A space or a tab. -/
def isBlank (c : Char) : Bool := c == ' ' || c == '\t'

/-- A character that a comment or a string may hold: none that controls, but for the tab. -/
def isText (c : Char) : Bool := c == '\t' || (0x20 ≤ c.toNat && c.toNat ≠ 0x7F)

/-- Reads the longest run of such characters. -/
def run (p : Char → Bool) : Reader (List Char) := do
  let cs ← get
  set (cs.dropWhile p)
  return cs.takeWhile p

/-- Passes over blanks. -/
def skipBlanks : Reader Unit := discard (run isBlank)

/-- Passes over these characters if they come next, and answers whether they did. -/
def accept (word : List Char) : Reader Bool := do
  let cs ← get
  if word.isPrefixOf cs then
    set (cs.drop word.length)
    return true
  else return false

/-- Demands these characters. -/
def expect (word : List Char) : Reader Unit := do
  guard (← accept word)

/-- Passes over a line break, if one comes next, and answers whether it did. -/
def lineBreak : Reader Bool := do
  if ← accept ['\n'] then return true
  accept ['\r', '\n']

/-- Passes over a comment, if one comes next. -/
def skipComment : Reader Unit := do
  if ← accept ['#'] then discard (run isText)

/-- Passes over blanks, comments and line breaks. -/
def skipSpace : Nat → Reader Unit
  | 0 => return ()
  | fuel + 1 => do
    skipBlanks
    skipComment
    if ← lineBreak then skipSpace fuel

/-! ## 2. Strings -/

/-- The character that a letter stands for after a backslash. -/
def escape? : Char → Option Char
  | 'b' => some '\x08'
  | 't' => some '\t'
  | 'n' => some '\n'
  | 'f' => some '\x0C'
  | 'r' => some '\r'
  | '\x22' => some '\x22'
  | '\\' => some '\\'
  | _ => none

/-- Reads a code point of `length` hexadecimal digits. -/
def codePoint (length : Nat) : Reader Char := do
  let cs ← get
  guard (length ≤ cs.length)
  let n ← Text.readDigits? 16 (cs.take length)
  guard n.isValidChar
  set (cs.drop length)
  return Char.ofNat n

/-- Reads what follows a backslash. -/
def escaped : Reader Char := do
  match ← get with
  | 'u' :: cs =>
    set cs
    codePoint 4
  | 'U' :: cs =>
    set cs
    codePoint 8
  | c :: cs =>
    set cs
    escape? c
  | [] => failure

/-- Reads a string on one line, up to its closing quote. Between double quotes a backslash escapes;
the characters read so far go from last to first. -/
def shortString (quote : Char) : Nat → List Char → Reader (List Char)
  | 0, _ => failure
  | fuel + 1, chars => do
    match ← get with
    | [] => failure
    | c :: cs =>
      set cs
      if c == quote then return chars.reverse
      else if c == '\\' && quote == '\x22' then
        let char ← escaped
        shortString quote fuel (char :: chars)
      else
        guard (isText c)
        shortString quote fuel (c :: chars)

/-- Passes over blanks and line breaks. -/
def skipLines : Nat → Reader Unit
  | 0 => return ()
  | fuel + 1 => do
    skipBlanks
    if ← lineBreak then skipLines fuel

/-- Whether a line ends here, perhaps after blanks. -/
def endsLine (cs : List Char) : Bool :=
  match cs.dropWhile isBlank with
  | '\n' :: _ | '\r' :: '\n' :: _ => true
  | _ => false

/-- Reads a string over several lines, up to its three closing quotes; one or two quotes may stand
before them. Between double quotes a backslash at the end of a line takes all blanks and line breaks
behind it away. The characters read so far go from last to first. -/
def longString (quote : Char) : Nat → List Char → Reader (List Char)
  | 0, _ => failure
  | fuel + 1, chars => do
    let cs ← get
    match cs with
    | [] => failure
    | c :: rest =>
      if c == quote then
        let quotes := (cs.takeWhile (· == quote)).length
        if quotes < 3 then
          set (cs.drop quotes)
          longString quote fuel (List.replicate quotes quote ++ chars)
        else
          let inner := min (quotes - 3) 2
          set (cs.drop (inner + 3))
          return (List.replicate inner quote ++ chars).reverse
      else if ← lineBreak then longString quote fuel ('\n' :: chars)
      else if c == '\\' && quote == '\x22' then
        set rest
        if endsLine rest then
          skipLines (rest.length + 1)
          longString quote fuel chars
        else
          let char ← escaped
          longString quote fuel (char :: chars)
      else
        guard (isText c)
        set rest
        longString quote fuel (c :: chars)

/-- Reads a string between quotes of this kind. -/
def string (quote : Char) : Reader String := do
  let fuel := (← get).length + 1
  if ← accept [quote, quote, quote] then
    discard lineBreak
    return String.ofList (← longString quote fuel [])
  else
    expect [quote]
    return String.ofList (← shortString quote fuel [])

/-! ## 3. Dates and times -/

/-- Reads a number of exactly `length` digits within bounds. -/
def fixedNumber (length least greatest : Nat) : Reader Nat := do
  let cs ← get
  let digits := cs.take length
  guard (digits.length = length && digits.all Char.isDigit)
  let n ← Text.readDigits? 10 digits
  guard (least ≤ n && n ≤ greatest)
  set (cs.drop length)
  return n

/-- How many days a month has. -/
def daysOf (year month : Nat) : Nat :=
  if month = 2 then
    (if year % 4 = 0 && (year % 100 ≠ 0 || year % 400 = 0) then 29 else 28)
  else if [4, 6, 9, 11].contains month then 30
  else 31

/-- Reads a date. -/
def date : Reader Unit := do
  let year ← fixedNumber 4 0 9999
  expect ['-']
  let month ← fixedNumber 2 1 12
  expect ['-']
  discard (fixedNumber 2 1 (daysOf year month))

/-- Reads a time of day. -/
def time : Reader Unit := do
  discard (fixedNumber 2 0 23)
  expect [':']
  discard (fixedNumber 2 0 59)
  expect [':']
  discard (fixedNumber 2 0 60)
  if ← accept ['.'] then guard !(← run Char.isDigit).isEmpty

/-- Reads how far a time is from universal time. -/
def timeOffset : Reader Unit := do
  match ← get with
  | 'Z' :: cs | 'z' :: cs => set cs
  | '+' :: cs | '-' :: cs =>
    set cs
    discard (fixedNumber 2 0 23)
    expect [':']
    discard (fixedNumber 2 0 59)
  | _ => failure

/-- Reads with a reader if it can, or nothing. -/
def optional (reader : Reader Unit) : Reader Unit := fun cs =>
  match reader cs with
  | some result => some result
  | none => some ((), cs)

/-- Reads the time behind a date. -/
def timeBehindDate : Reader Unit := do
  match ← get with
  | 'T' :: cs | 't' :: cs | ' ' :: cs =>
    set cs
    time
    optional timeOffset
  | _ => failure

/-- Reads a date, a time or both. -/
def dateTime : Reader Unit := fun cs =>
  match date cs with
  | some ((), rest) => optional timeBehindDate rest
  | none => time cs

/-! ## 4. Numbers -/

/-- Reads digits, between which single underscores may stand. -/
def digits (isDigit : Char → Bool) : Nat → Reader (List Char)
  | 0 => failure
  | fuel + 1 => do
    let run ← run isDigit
    guard !run.isEmpty
    if ← accept ['_'] then return run ++ (← digits isDigit fuel)
    else return run

/-- Reads digits that may be separated. -/
def separatedDigits (isDigit : Char → Bool) : Reader (List Char) := do
  digits isDigit ((← get).length + 1)

/-- Reads the whole part of a decimal number, which has no leading zero. -/
def wholePart : Reader (List Char) := do
  if ← accept ['0'] then return ['0'] else separatedDigits Char.isDigit

/-- Whether a whole number has 64 bits. -/
def isWord (n : Int) : Bool := Int64.minValue.toInt ≤ n && n ≤ Int64.maxValue.toInt

/-- Reads a whole number that is written with `radix` digits. -/
def radixNumber (radix : Nat) : Reader Item := do
  let digits ← separatedDigits fun c => (Text.digit? radix c).isSome
  let n ← Text.readDigits? radix digits
  guard (isWord n)
  return .integer n

/-- Reads an exponent, if one comes next, and answers whether it did. -/
def exponent : Reader (Option (List Char)) := do
  let marked ← if ← accept ['e'] then pure true else accept ['E']
  if marked then
    let sign ← if ← accept ['-'] then pure ['-'] else do
      discard (accept ['+'])
      pure []
    return some ('e' :: sign ++ (← separatedDigits Char.isDigit))
  else return none

/-- Reads a decimal number: whole, or with a fraction or an exponent, and then not too large. -/
def decimal (negative : Bool) : Reader Item := do
  let whole ← wholePart
  let fraction ← if ← accept ['.'] then do
      pure (some ('.' :: (← separatedDigits Char.isDigit)))
    else pure none
  let exponent ← exponent
  if fraction.isNone && exponent.isNone then
    let n ← Text.readDigits? 10 whole
    let n : Int := if negative then -(n : Int) else n
    guard (isWord n)
    return .integer n
  else
    guard (negative || Text.isMagnitude (whole ++ fraction.getD [] ++ exponent.getD []))
    return .decimal

/-- Reads a number that is no date. -/
def number : Reader Item := do
  if ← accept ['0', 'x'] then radixNumber 16
  else if ← accept ['0', 'o'] then radixNumber 8
  else if ← accept ['0', 'b'] then radixNumber 2
  else
    let negative ← accept ['-']
    if !negative then discard (accept ['+'])
    if ← accept ['i', 'n', 'f'] then return .decimal
    if ← accept ['n', 'a', 'n'] then return .decimal
    decimal negative

/-- Reads a date, a time or a number. -/
def dateOrNumber : Reader Item := fun cs =>
  match dateTime cs with
  | some ((), rest) => some (.dateTime, rest)
  | none => number cs

end Reader

end RouterConfig.Toml
