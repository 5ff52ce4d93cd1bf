/-
RouterConfig.Yaml.Layout — the tokens of a text, with its indentation.

Outside brackets, the columns of open blocks form a stack. An entry or a
key at a new column opens a block, and a line further left closes blocks.

That something is a key shows only at the colon behind it. So the scan
remembers where a key may have begun, and puts the token for the key there
when the colon comes. A key stands on one line, with its colon among the
1024 characters behind its start.
-/
import RouterConfig.Yaml.Scalar
import RouterConfig.Yaml.Tag

namespace RouterConfig.Yaml

/-- Where a key may have begun. -/
structure KeyStart where
  /-- How many tokens stand before it. -/
  tokens : Nat
  index : Nat
  line : Nat
  column : Nat
  /-- Whether it has to be a key, since it stands at the column of a block of keys. -/
  isRequired : Bool
  deriving Inhabited, Repr

/-- Where a scan of tokens stands. -/
structure Layout where
  cursor : Cursor
  tokens : Array Token := #[]
  /-- The columns of open blocks, the innermost first. -/
  blocks : List Nat := []
  /-- Where a key may have begun: outside brackets last, and for each open bracket before that. -/
  starts : List (Option KeyStart) := [none]
  /-- Whether a key may begin at the place. -/
  keyAllowed : Bool := true
  deriving Inhabited

namespace Layout

/-- Whether a bracket is open. -/
def inFlow (layout : Layout) : Bool := layout.starts.length > 1

/-- The column of the innermost block, -1 outside all blocks. -/
def indent (layout : Layout) : Int :=
  match layout.blocks with
  | [] => -1
  | column :: _ => column

/-- Scans on, or finds that the text is not YAML. -/
abbrev Scan := StateT Layout Option

/-! ## 1. Tokens and places -/

/-- Reads at the place. -/
def reading (reader : Reader α) : Scan α := fun layout => do
  let (a, cursor) ← reader layout.cursor
  return (a, { layout with cursor })

/-- Adds a token. -/
def push (token : Token) : Scan Unit :=
  modify fun layout => { layout with tokens := layout.tokens.push token }

/-- Passes over the sign of a token, and adds the token. -/
def pushSign (token : Token) (length : Nat) : Scan Unit := do
  reading (Reader.skip length)
  push token

/-- Says whether a key may begin at the place. -/
def allowKey (b : Bool) : Scan Unit := modify ({ · with keyAllowed := b })

/-! ## 2. Blocks -/

/-- The layout with the blocks closed that are indented further than a column. -/
def closed (column : Int) (tokens : Array Token) : List Nat → Array Token × List Nat
  | [] => (tokens, [])
  | block :: rest =>
    if (block : Int) > column then closed column (tokens.push .blockEnd) rest
    else (tokens, block :: rest)

/-- Closes the blocks that are indented further than a column. Inside brackets there are none. -/
def closeBlocks (column : Int) : Scan Unit := modify fun layout =>
  if layout.inFlow then layout
  else
    let (tokens, blocks) := closed column layout.tokens layout.blocks
    { layout with tokens, blocks }

/-- Opens a block at a column further right than the innermost one, by a token that is put behind
the first `place` tokens. Inside brackets there are no blocks. -/
def openBlock (token : Token) (column place : Nat) : Scan Unit := modify fun layout =>
  if !layout.inFlow && layout.indent < (column : Int) then
    { layout with
      blocks := column :: layout.blocks
      tokens := layout.tokens.insertIdxIfInBounds place token }
  else layout

/-- Opens a block at the place. -/
def openBlockHere (token : Token) : Scan Unit := do
  let layout ← get
  openBlock token layout.cursor.column layout.tokens.size

/-! ## 3. Keys -/

/-- Forgets where a key may have begun; that is wrong if there had to be one. -/
def dropKey : Scan Unit := do
  let layout ← get
  guard !((layout.starts.head?.getD none).any (·.isRequired))
  set { layout with starts := none :: layout.starts.drop 1 }

/-- Remembers that a key may begin at the place. -/
def rememberKey : Scan Unit := do
  let layout ← get
  if layout.keyAllowed then
    dropKey
    let cursor := layout.cursor
    let start : KeyStart := {
      tokens := layout.tokens.size, index := cursor.index, line := cursor.line,
      column := cursor.column,
      isRequired := !layout.inFlow && layout.indent = (cursor.column : Int) }
    modify fun layout => { layout with starts := some start :: layout.starts.drop 1 }

/-- Whether the place is too far from where a key may have begun. -/
def isStale (cursor : Cursor) (start : KeyStart) : Bool :=
  start.line < cursor.line || start.index + 1024 < cursor.index

/-- Forgets the starts that are too far from the place. -/
def dropStaleKeys : Scan Unit := do
  let layout ← get
  let stale (start : Option KeyStart) : Bool := start.any (isStale layout.cursor)
  guard !(layout.starts.any fun start => stale start && start.any (·.isRequired))
  set { layout with starts := layout.starts.map fun start => if stale start then none else start }

/-! ## 4. What stands at a place -/

/-- Passes over blanks, comments and line breaks. A tab may stand only where no key may begin. -/
def skipSpace : Nat → Scan Unit
  | 0 => return ()
  | fuel + 1 => do
    let layout ← get
    if layout.cursor.column == 0 && layout.cursor.at? orderMark then reading (Reader.skip 1)
    let tabs := layout.inFlow || !layout.keyAllowed
    reading (Reader.skipWhile fun c => c == ' ' || (tabs && c == '\t'))
    reading Reader.skipComment
    let layout ← get
    if !layout.cursor.atEnd && endsLine layout.cursor.rest then
      discard (reading Reader.lineBreak)
      if !layout.inFlow then allowKey true
      skipSpace fuel

/-- A mark between documents: it closes all blocks. -/
def documentMark (token : Token) : Scan Unit := do
  closeBlocks (-1)
  dropKey
  allowKey false
  pushSign token 3

/-- A directive. -/
def directive : Scan Unit := do
  closeBlocks (-1)
  dropKey
  allowKey false
  push (← reading Directive.token)

/-- An opening bracket, which may begin a key. -/
def openFlow (token : Token) : Scan Unit := do
  rememberKey
  modify fun layout => { layout with starts := none :: layout.starts }
  allowKey true
  pushSign token 1

/-- A closing bracket. -/
def closeFlow (token : Token) : Scan Unit := do
  dropKey
  modify fun layout =>
    if layout.inFlow then { layout with starts := layout.starts.drop 1 } else layout
  allowKey false
  pushSign token 1

/-- A comma between the entries of brackets. -/
def flowEntry : Scan Unit := do
  dropKey
  allowKey true
  pushSign .flowEntry 1

/-- A dash before an entry of a block. -/
def blockEntry : Scan Unit := do
  let layout ← get
  if !layout.inFlow then
    guard layout.keyAllowed
    openBlockHere .blockSequenceStart
  dropKey
  allowKey true
  pushSign .blockEntry 1

/-- A question mark before a key. -/
def explicitKey : Scan Unit := do
  let layout ← get
  if !layout.inFlow then
    guard layout.keyAllowed
    openBlockHere .blockMappingStart
  dropKey
  allowKey !layout.inFlow
  pushSign .key 1

/-- A colon. If a key may have begun before it, that is a key. -/
def value : Scan Unit := do
  let layout ← get
  match layout.starts.head?.getD none with
  | some start =>
    set { layout with tokens := layout.tokens.insertIdxIfInBounds start.tokens .key }
    openBlock .blockMappingStart start.column start.tokens
    modify fun layout => { layout with starts := none :: layout.starts.drop 1 }
    allowKey false
  | none =>
    if !layout.inFlow then
      guard layout.keyAllowed
      openBlockHere .blockMappingStart
    allowKey !layout.inFlow
  pushSign .value 1

/-- A token that may begin a key, and behind which none may begin. -/
def keyPart (reader : Layout → Reader Token) : Scan Unit := do
  rememberKey
  allowKey false
  push (← reading (reader (← get)))

/-- A plain scalar. Behind one that is followed by a line break, a key may begin. -/
def plain : Scan Unit := do
  rememberKey
  allowKey false
  let layout ← get
  let (text, broken) ← reading (Plain.read layout.inFlow (layout.indent + 1).toNat)
  push (.scalar text .plain)
  if broken then allowKey true

/-- A block scalar. -/
def block (style : Style) : Scan Unit := do
  dropKey
  allowKey true
  let text ← reading (Block.read (style = .folded) (← get).indent)
  push (.scalar text style)

/-- Characters that stand for themselves at the start of a token, or for nothing. -/
def indicators : List Char :=
  ['-', '?', ':', ',', '[', ']', '\x7b', '\x7d', '#', '&', '*', '!', '|', '>', '\'', '\x22', '%', '@',
    '\x60']

/-- Whether a plain scalar may begin with these characters. -/
def startsPlain (inFlow : Bool) : List Char → Bool
  | [] => false
  | c :: cs =>
    !(isBlank c || isBreak c || indicators.contains c) ||
    (c == '-' && !cs.head?.any isBlank) ||
    (!inFlow && (c == '?' || c == ':') && !endsWord cs)

/-- Reads the token at the place, which is not the end of the text. -/
def token : Scan Unit := do
  let layout ← get
  let cursor := layout.cursor
  let inFlow := layout.inFlow
  if cursor.column == 0 && cursor.at? '%' then directive
  else if cursor.atMark ['-', '-', '-'] then documentMark .documentStart
  else if cursor.atMark ['.', '.', '.'] then documentMark .documentEnd
  else
    match cursor.rest with
    | '[' :: _ => openFlow .flowSequenceStart
    | '\x7b' :: _ => openFlow .flowMappingStart
    | ']' :: _ => closeFlow .flowSequenceEnd
    | '\x7d' :: _ => closeFlow .flowMappingEnd
    | ',' :: _ => flowEntry
    | '*' :: _ => keyPart fun _ => .alias <$> anchorName
    | '&' :: _ => keyPart fun _ => .anchor <$> anchorName
    | '!' :: _ => keyPart fun layout => Tag.token layout.inFlow
    | '\'' :: _ => keyPart fun _ => (.scalar · .quoted) <$> Quoted.read '\''
    | '\x22' :: _ => keyPart fun _ => (.scalar · .quoted) <$> Quoted.read '\x22'
    | c :: cs =>
      if c == '-' && endsWord cs then blockEntry
      else if c == '?' && (inFlow || endsWord cs) then explicitKey
      else if c == ':' && (inFlow || endsWord cs) then value
      else if c == '|' && !inFlow then block .literal
      else if c == '>' && !inFlow then block .folded
      else do
        guard (startsPlain inFlow (c :: cs))
        plain
    | [] => failure

/-! ## 5. Whole texts -/

/-- What the end of the text closes. -/
def finish : Scan Unit := do
  closeBlocks (-1)
  dropKey

/-- Reads the tokens up to the end of the text, at most `fuel` of them. -/
def scan : Nat → Scan Unit
  | 0 => failure
  | fuel + 1 => do
    skipSpace ((← get).cursor.rest.length + 1)
    dropStaleKeys
    let cursor := (← get).cursor
    closeBlocks cursor.column
    if cursor.atEnd then finish
    else
      token
      scan fuel

end Layout

/-- The tokens of a text. -/
def Token.ofText? (text : String) : Option (List Token) := do
  let chars := if text.toList.head? == some orderMark then text.toList.drop 1 else text.toList
  guard (chars.all isAllowed)
  let (_, layout) ← Layout.scan (chars.length + 2) { cursor := { rest := chars } }
  return layout.tokens.toList

end RouterConfig.Yaml
