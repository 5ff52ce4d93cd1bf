/-
RouterConfig.Toml.Document — values, keys and lines of a TOML text, and the
table that the whole text describes.
-/
import RouterConfig.Toml.Scalar

namespace RouterConfig.Toml

namespace Reader

/-! ## 1. Keys -/

/-- A character of a key without quotes: an ASCII letter or digit, a dash or an underscore. -/
def isKeyChar (c : Char) : Bool := c.isAlphanum || c == '-' || c == '_'

/-- Reads a part of a key. -/
def keyPart : Reader String := do
  let fuel := (← get).length + 1
  if ← accept ['\x22'] then return String.ofList (← shortString '\x22' fuel [])
  if ← accept ['\''] then return String.ofList (← shortString '\'' fuel [])
  let chars ← run isKeyChar
  guard !chars.isEmpty
  return String.ofList chars

/-- Reads the parts of a dotted key, with the blanks around them. -/
def keyParts : Nat → Reader (List String)
  | 0 => failure
  | fuel + 1 => do
    skipBlanks
    let part ← keyPart
    skipBlanks
    if ← accept ['.'] then return part :: (← keyParts fuel)
    else return [part]

/-- How deep brackets, braces or the parts of a key may go, and one more. -/
def nestingLimit : Nat := 80

/-- Reads a dotted key: the parts before the last, and the last. -/
def key : Reader (List String × String) := do
  let parts ← keyParts ((← get).length + 1)
  guard (parts.length < nestingLimit)
  return (parts.dropLast, ← parts.getLast?)

/-! ## 2. Values -/

mutual

/-- Reads a value inside `depth` brackets or braces. -/
def value (depth : Nat) : Nat → Reader Item
  | 0 => failure
  | fuel + 1 => do
    match ← get with
    | '\x22' :: _ => return .string (← string '\x22')
    | '\'' :: _ => return .string (← string '\'')
    | '[' :: cs =>
      guard (depth + 1 < nestingLimit)
      set cs
      return .array (← items (depth + 1) fuel)
    | '\x7b' :: cs =>
      guard (depth + 1 < nestingLimit)
      set cs
      skipBlanks
      if ← accept ['\x7d'] then return .table .braces []
      else return .table .braces (← fields (depth + 1) [] fuel)
    | _ =>
      if ← accept "true".toList then return .boolean true
      if ← accept "false".toList then return .boolean false
      dateOrNumber

/-- Reads the items of an array up to the closing bracket. A comma may stand behind the last. -/
def items (depth : Nat) : Nat → Reader (List Item)
  | 0 => failure
  | fuel + 1 => do
    skipSpace fuel
    if ← accept [']'] then return []
    let item ← value depth fuel
    skipSpace fuel
    if ← accept [','] then return item :: (← items depth fuel)
    expect [']']
    return [item]

/-- Reads the rest of a table in braces, given its entries so far. -/
def fields (depth : Nat) (entries : Entries) : Nat → Reader Entries
  | 0 => failure
  | fuel + 1 => do
    let (path, last) ← key
    expect ['=']
    skipBlanks
    let item ← value depth fuel
    let entries ← entries.insert path last item
    skipBlanks
    if ← accept [','] then fields depth entries fuel
    else
      expect ['\x7d']
      return entries

end

/-! ## 3. Lines -/

/-- The table of a text as far as it is read, and the path to the table that was opened last. -/
structure Progress where
  entries : Entries := []
  opened : List String := []

/-- Reads a header between these brackets. -/
def header (opening closing : List Char) : Reader (List String × String) := do
  expect opening
  let name ← key
  expect closing
  return name

/-- Reads what stands on a line, apart from blanks and comments. -/
def line (progress : Progress) : Reader Progress := do
  match ← get with
  | [] | '#' :: _ | '\n' :: _ | '\r' :: _ => return progress
  | '[' :: '[' :: _ =>
    let (path, last) ← header ['[', '['] [']', ']']
    return { entries := ← progress.entries.openNext path last, opened := path ++ [last] }
  | '[' :: _ =>
    let (path, last) ← header ['['] [']']
    return { entries := ← progress.entries.openTable path last, opened := path ++ [last] }
  | cs =>
    let (path, last) ← key
    expect ['=']
    skipBlanks
    let item ← value 0 (3 * cs.length + 3)
    let entries ← progress.entries.insertBelow progress.opened path last item
    return { progress with entries }

/-- Reads all lines. -/
def document : Nat → Progress → Reader Entries
  | 0, _ => failure
  | fuel + 1, progress => do
    skipBlanks
    let progress ← line progress
    skipBlanks
    skipComment
    if ← lineBreak then document fuel progress
    else
      guard (← get).isEmpty
      return progress.entries

end Reader

/-- The table that a text describes. -/
def read? (text : String) : Option Entries := do
  let chars := if text.toList.head? == some '\uFEFF' then text.toList.drop 1 else text.toList
  let (entries, _) ← Reader.document (chars.length + 1) {} chars
  return entries

end RouterConfig.Toml
