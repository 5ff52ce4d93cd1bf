/-
RouterConfig.Text.Quoted — text between double quotes as difference
messages show it.

A quote and a backslash are escaped by a backslash, the common control
characters have a letter, and any other character that cannot be seen on
its own is written by its code point in braces. Everything else stands for
itself.
-/
import RouterConfig.Text.Basic
import RouterConfig.Unicode.Visible

namespace RouterConfig.Text

/-- One character inside quotes. -/
def quoteChar (c : Char) : List Char :=
  if c = '\x00' then ['\\', '0']
  else if c = '\t' then ['\\', 't']
  else if c = '\r' then ['\\', 'r']
  else if c = '\n' then ['\\', 'n']
  else if c = '\x22' then ['\\', '\x22']
  else if c = '\\' then ['\\', '\\']
  else if Unicode.isVisible c then [c]
  else ['\\', 'u', '\x7b'] ++ Nat.toDigits 16 c.toNat ++ ['\x7d']

/-- The text between quotes. -/
def quote (s : String) : String :=
  String.ofList (['\x22'] ++ s.toList.flatMap quoteChar ++ ['\x22'])

/-- A list of quoted texts in brackets. -/
def quoteList (items : List String) : String := "[" ++ join ", " (items.map quote) ++ "]"

/-- An optional text, with the word that says whether there is one. -/
def quoteOption (inner : α → String) : Option α → String
  | none => "None"
  | some a => "Some(" ++ inner a ++ ")"

end RouterConfig.Text
