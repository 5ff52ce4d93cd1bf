/-
RouterConfig.Json.Printer — the text of a JSON value, on one line or over
several.

Quotes, backslashes and control characters are escaped inside a string, the
common control characters by a letter. All other characters stand for
themselves.
-/
import RouterConfig.Json.Basic
import RouterConfig.Text.Basic
import RouterConfig.Text.Integer

namespace RouterConfig.Json

/-! ## 1. Strings -/

/-- One character inside a string. -/
def escapeChar (c : Char) : List Char :=
  if c = '\x22' then ['\\', '\x22']
  else if c = '\\' then ['\\', '\\']
  else if c = '\x08' then ['\\', 'b']
  else if c = '\x0C' then ['\\', 'f']
  else if c = '\n' then ['\\', 'n']
  else if c = '\r' then ['\\', 'r']
  else if c = '\t' then ['\\', 't']
  else if c.toNat < 0x20 then ['\\', 'u'] ++ (Text.hexDigits 4 c.toNat).toList
  else [c]

/-- A string between its quotes. -/
def writeString (s : String) : String :=
  String.ofList (['\x22'] ++ s.toList.flatMap escapeChar ++ ['\x22'])

/-! ## 2. On one line -/

mutual

/-- The text of a value without blanks. -/
def compact : Json → String
  | .null => "null"
  | .bool true => "true"
  | .bool false => "false"
  | .integer n => Text.ofInt n
  | .decimal text => text
  | .string s => writeString s
  | .array items => "[" ++ Text.join "," (compactItems items) ++ "]"
  | .object fields => "\x7b" ++ Text.join "," (compactFields fields) ++ "\x7d"

/-- The texts of the items of an array. -/
def compactItems : List Json → List String
  | [] => []
  | item :: rest => item.compact :: compactItems rest

/-- The texts of the fields of an object. -/
def compactFields : List (String × Json) → List String
  | [] => []
  | (name, value) :: rest => (writeString name ++ ":" ++ value.compact) :: compactFields rest

end

/-! ## 3. Over several lines -/

/-- The parts of an array or an object between its brackets: each on a line of its own, one step
further in; nothing at all when there are none. -/
def block (opening closing : String) (depth : Nat) (parts : List String) : String :=
  if parts.isEmpty then opening ++ closing
  else
    let newline := "\n" ++ Text.times depth "  "
    opening ++ newline ++ "  " ++ Text.join ("," ++ newline ++ "  ") parts ++ newline ++ closing

mutual

/-- The text of a value over several lines, at a depth of nesting. -/
def prettyAt (depth : Nat) : Json → String
  | .null => "null"
  | .bool true => "true"
  | .bool false => "false"
  | .integer n => Text.ofInt n
  | .decimal text => text
  | .string s => writeString s
  | .array items => block "[" "]" depth (prettyItems (depth + 1) items)
  | .object fields => block "\x7b" "\x7d" depth (prettyFields (depth + 1) fields)

/-- The texts of the items of an array. -/
def prettyItems (depth : Nat) : List Json → List String
  | [] => []
  | item :: rest => item.prettyAt depth :: prettyItems depth rest

/-- The texts of the fields of an object. -/
def prettyFields (depth : Nat) : List (String × Json) → List String
  | [] => []
  | (name, value) :: rest =>
    (writeString name ++ ": " ++ value.prettyAt depth) :: prettyFields depth rest

end

/-- The text of a value over several lines. -/
def pretty (json : Json) : String := json.prettyAt 0

end RouterConfig.Json
