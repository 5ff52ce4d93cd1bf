/-
RouterConfig.Yaml.Tag — tags, anchors and directives.

A tag is a handle with a suffix. A directive says what a handle stands for,
or which version of YAML a text is written in.
-/
import RouterConfig.Yaml.Cursor
import RouterConfig.Yaml.Token

namespace RouterConfig.Yaml

/-! ## 1. Anchors -/

/-- Whether the name of an anchor may end before these characters. -/
def endsAnchor (cs : List Char) : Bool :=
  endsWord cs || cs.head?.any ['?', ':', ',', ']', '\x7d', '%', '@', '\x60'].contains

/-- Reads the name of an anchor behind its sign. -/
def anchorName : Reader String := do
  Reader.skip 1
  let name ← Reader.run isNameChar
  guard (!name.isEmpty && endsAnchor (← Reader.rest))
  return String.ofList name

namespace Tag

/-! ## 2. Suffixes -/

/-- Whether a character may stand in a suffix. The last three may do so only between
angle brackets. -/
def isSuffixChar (verbatim : Bool) (c : Char) : Bool :=
  isNameChar c ||
  [';', '/', '?', ':', '@', '&', '=', '+', '$', '.', '!', '~', '*', '\'', '(', ')'].contains c ||
  (verbatim && [',', '[', ']'].contains c)

/-- Reads an octet that is written by its hexadecimal digits behind a percent sign. -/
def octet : Reader Nat := do
  match ← Reader.rest with
  | '%' :: a :: b :: _ =>
    let high ← hexDigit? a
    let low ← hexDigit? b
    Reader.skip 3
    return high * 16 + low
  | _ => failure

/-- How many octets a character has whose first octet this is. -/
def octetCount? (first : Nat) : Option Nat :=
  if first < 0x80 then some 1
  else if 0xC0 ≤ first && first < 0xE0 then some 2
  else if 0xE0 ≤ first && first < 0xF0 then some 3
  else if 0xF0 ≤ first && first < 0xF8 then some 4
  else none

/-- Reads `n` octets that continue a character. -/
def laterOctets : Nat → Reader (List Nat)
  | 0 => return []
  | n + 1 => do
    let next ← octet
    guard (0x80 ≤ next && next < 0xC0)
    return next :: (← laterOctets n)

/-- Reads a character that is written by its octets. -/
def escaped : Reader (List Char) := do
  let first ← octet
  let later ← laterOctets ((← octetCount? first) - 1)
  let bytes : ByteArray := ⟨((first :: later).map UInt8.ofNat).toArray⟩
  return (← String.fromUTF8? bytes).toList

/-- Reads the characters of a suffix, of at most `fuel` pieces. -/
def suffixChars (verbatim : Bool) : Nat → List Char → Reader (List Char)
  | 0, chars => return chars
  | fuel + 1, chars => do
    let run ← Reader.run (isSuffixChar verbatim)
    if (← get).at? '%' then
      let char ← escaped
      suffixChars verbatim fuel (chars ++ run ++ char)
    else return chars ++ run

/-- Reads the characters of a suffix. -/
def suffix (verbatim : Bool) : Reader (List Char) := do
  suffixChars verbatim ((← get).rest.length + 1) []

/-! ## 3. Tags -/

/-- Reads a handle: an exclamation mark, and a name with another one if that is there. -/
def handle : Reader (List Char) := do
  Reader.expect '!'
  let name ← Reader.run isNameChar
  if (← get).at? '!' then
    Reader.skip 1
    return '!' :: name ++ ['!']
  else return '!' :: name

/-- Whether a handle has a name or a second exclamation mark, and ends with one. -/
def isFullHandle (handle : List Char) : Bool := handle.length ≥ 2 && handle.getLast? == some '!'

/-- Reads a tag: `!<suffix>`, `!name!suffix`, `!suffix` or `!`. -/
def token (inFlow : Bool) : Reader Token := do
  let tag ← match ← Reader.rest with
    | '!' :: '<' :: _ => do
      Reader.skip 2
      let chars ← suffix true
      guard !chars.isEmpty
      Reader.expect '>'
      pure (Token.tag "" (String.ofList chars))
    | _ => do
      let start ← handle
      let chars ← suffix false
      if isFullHandle start then
        guard !chars.isEmpty
        pure (Token.tag (String.ofList start) (String.ofList chars))
      else
        let chars := start.drop 1 ++ chars
        pure (if chars.isEmpty then Token.tag "" "!" else Token.tag "!" (String.ofList chars))
  let cursor ← get
  guard (endsWord cursor.rest || (inFlow && cursor.at? ','))
  return tag

end Tag

/-! ## 4. Directives -/

namespace Directive

/-- Reads a number of at most nine digits. -/
def number : Reader Nat := do
  let digits ← Reader.run Char.isDigit
  guard (!digits.isEmpty && digits.length ≤ 9)
  return digits.foldl (fun n c => n * 10 + (c.toNat - '0'.toNat)) 0

/-- Reads the version of YAML. -/
def version : Reader Token := do
  Reader.skipWhile isBlank
  let major ← number
  Reader.expect '.'
  let minor ← number
  return .version major minor

/-- Reads a handle and what it stands for. -/
def shorthand : Reader Token := do
  Reader.skipWhile isBlank
  let start ← Tag.handle
  guard (start == ['!'] || Tag.isFullHandle start)
  guard ((← get).rest.head?.any isBlank)
  Reader.skipWhile isBlank
  let expansion ← Tag.suffix true
  guard (!expansion.isEmpty && endsWord (← Reader.rest))
  return .shorthand (String.ofList start) (String.ofList expansion)

/-- Reads a directive with the rest of its line. -/
def token : Reader Token := do
  Reader.skip 1
  let name ← Reader.run isNameChar
  guard (endsWord (← Reader.rest))
  let directive ← match String.ofList name with
    | "YAML" => version
    | "TAG" => shorthand
    | _ => failure
  Reader.skipWhile isBlank
  Reader.skipComment
  guard (endsLine (← Reader.rest))
  discard Reader.lineBreak
  return directive

end Directive

end RouterConfig.Yaml
