/-
RouterConfig.Yaml.Node — the values that a YAML text describes, before
anything is known of what they are for.

A node is a scalar with its text, a sequence, or a mapping, each with the
tag that the text gives it. A node that repeats another one by its anchor
only points to it, so a text may well describe a value that contains
itself.
-/
import RouterConfig.Yaml.Layout

namespace RouterConfig.Yaml

/-! ## 1. Nodes -/

/-- A value in a text. -/
inductive Node where
  | scalar (tag : Option String) (text : String) (style : Style)
  | sequence (tag : Option String) (items : List Node)
  | mapping (tag : Option String) (entries : List (Node × Node))
  /-- The node of an anchor, by the number of the anchor. -/
  | alias (anchor : Nat)
  deriving Inhabited, Repr

namespace Node

/-- The node where a text leaves one out. -/
def blank : Node := .scalar none "" .plain

mutual

/-- How many parts a node has: a scalar and an alias are one, a collection has a start and an end
beside its own parts. -/
def size : Node → Nat
  | .scalar .. | .alias _ => 1
  | .sequence _ items => 2 + sizeAll items
  | .mapping _ entries => 2 + sizeEntries entries

/-- How many parts several nodes have. -/
def sizeAll : List Node → Nat
  | [] => 0
  | item :: rest => item.size + sizeAll rest

/-- How many parts the entries of a mapping have. -/
def sizeEntries : List (Node × Node) → Nat
  | [] => 0
  | (key, value) :: rest => key.size + value.size + sizeEntries rest

end

end Node

/-- What a text describes. -/
structure Document where
  /-- The node of the whole text; there is none in a text without content. -/
  root : Option Node
  /-- The nodes of the anchors. -/
  anchors : List (Nat × Node)
  deriving Inhabited

/-- The node of an anchor. -/
def Document.anchor? (document : Document) (anchor : Nat) : Option Node :=
  document.anchors.lookup anchor

namespace Composer

/-! ## 2. The state of a reading -/

/-- What is known while tokens are read. -/
structure State where
  tokens : List Token
  /-- What the handles of tags stand for. -/
  handles : List (String × String) := []
  /-- The numbers of anchors by their names. -/
  names : List (String × Nat) := []
  /-- For each number of an anchor, which of all marked nodes it belongs to. -/
  owners : List (Nat × Nat) := []
  /-- How many nodes are marked by an anchor. -/
  marked : Nat := 0
  /-- The nodes of the anchors. -/
  nodes : List (Nat × Node) := []
  deriving Inhabited

/-- Reads from the tokens, or finds that they describe nothing. -/
abbrev Compose := StateT State Option

/-- The next token, if there is one. -/
def peek : Compose (Option Token) := return (← get).tokens.head?

/-- Passes over the next token. -/
def skip : Compose Unit := modify fun state => { state with tokens := state.tokens.drop 1 }

/-- Demands this token. -/
def expect (token : Token) : Compose Unit := do
  guard ((← peek) == some token)
  skip

/-- Whether the next token is one of these. -/
def atAny (tokens : List Token) : Compose Bool := return (← peek).any tokens.contains

/-- The value under a name, with the name now standing for another. -/
def replaced [BEq α] (key : α) (value : β) (pairs : List (α × β)) : List (α × β) :=
  (key, value) :: pairs.filter fun pair => !(pair.1 == key)

/-- Gives the name of an anchor a number: that of the names in use before. The number belongs to the
node that begins here, even if it belonged to another one. -/
def mark (name : String) : Compose (Nat × Nat) := do
  let state ← get
  let number := state.names.length
  set { state with
    names := replaced name number state.names
    owners := replaced number state.marked state.owners
    marked := state.marked + 1 }
  return (number, state.marked)

/-- Keeps a marked node under its number, if the number still belongs to it. -/
def keep (mark : Option (Nat × Nat)) (node : Node) : Compose Node := do
  match mark with
  | none => return node
  | some (number, owner) =>
    let state ← get
    if state.owners.lookup number == some owner then
      set { state with nodes := replaced number node state.nodes }
    return node

/-! ## 3. Anchors and tags -/

/-- Reads an anchor, if there is one. -/
def anchor? : Compose (Option String) := do
  match ← peek with
  | some (.anchor name) =>
    skip
    return some name
  | _ => return none

/-- Reads a tag, if there is one. Its handle has to stand for something. -/
def tag? : Compose (Option String) := do
  match ← peek with
  | some (.tag handle suffix) =>
    skip
    if handle.isEmpty then return some suffix
    let expansion ← (← get).handles.lookup handle
    return some (expansion ++ suffix)
  | _ => return none

/-- Reads an anchor and a tag, in either order. -/
def properties : Compose (Option String × Option String) := do
  match ← anchor? with
  | some name => return (some name, ← tag?)
  | none =>
    match ← tag? with
    | some tag => return (← anchor?, some tag)
    | none => return (none, none)

/-! ## 4. Nodes -/

/-- The tag of a scalar. A lone exclamation mark says nothing. -/
def scalarTag (tag : Option String) : Option String := if tag == some "!" then none else tag

mutual

/-- Reads a node. Outside brackets it may be a block, and as part of a mapping a sequence that is
not indented further. -/
def node (block unindented : Bool) : Nat → Compose Node
  | 0 => failure
  | fuel + 1 => do
    match ← peek with
    | some (.alias name) =>
      skip
      return .alias (← (← get).names.lookup name)
    | _ =>
      let (name, tag) ← properties
      let anchor ← name.mapM mark
      keep anchor (← content block unindented tag (anchor.isSome || tag.isSome) fuel)

/-- Reads what follows the anchor and the tag of a node. If there are some, it may be left out. -/
def content (block unindented : Bool) (tag : Option String) (optional : Bool) : Nat → Compose Node
  | 0 => failure
  | fuel + 1 => do
    match ← peek with
    | some (.scalar text style) =>
      skip
      return .scalar (scalarTag tag) text style
    | some .flowSequenceStart =>
      skip
      return .sequence tag (← flowItems true fuel)
    | some .flowMappingStart =>
      skip
      return .mapping tag (← flowEntries true fuel)
    | next =>
      if unindented && next == some .blockEntry then
        return .sequence tag (← unindentedItems fuel)
      else if block && next == some .blockSequenceStart then
        skip
        return .sequence tag (← blockItems fuel)
      else if block && next == some .blockMappingStart then
        skip
        return .mapping tag (← blockEntries fuel)
      else
        guard optional
        return .scalar tag "" .plain

/-- Reads a node, unless one of these tokens comes next. -/
def nodeBefore (ends : List Token) (block unindented : Bool) : Nat → Compose Node
  | 0 => failure
  | fuel + 1 => do
    if ← atAny ends then return .blank
    node block unindented fuel

/-- Reads the entries of an indented sequence. -/
def blockItems : Nat → Compose (List Node)
  | 0 => failure
  | fuel + 1 => do
    match ← peek with
    | some .blockEntry =>
      skip
      let item ← nodeBefore [.blockEntry, .blockEnd] true false fuel
      return item :: (← blockItems fuel)
    | _ =>
      expect .blockEnd
      return []

/-- Reads the entries of a sequence that is indented no further than the mapping around it. -/
def unindentedItems : Nat → Compose (List Node)
  | 0 => failure
  | fuel + 1 => do
    match ← peek with
    | some .blockEntry =>
      skip
      let item ← nodeBefore [.blockEntry, .key, .value, .blockEnd] true false fuel
      return item :: (← unindentedItems fuel)
    | _ => return []

/-- Reads the entries of an indented mapping. -/
def blockEntries : Nat → Compose (List (Node × Node))
  | 0 => failure
  | fuel + 1 => do
    match ← peek with
    | some .key =>
      skip
      let ends : List Token := [.key, .value, .blockEnd]
      let key ← nodeBefore ends true true fuel
      let value ←
        if ← atAny [.value] then do
          skip
          nodeBefore ends true true fuel
        else pure .blank
      return (key, value) :: (← blockEntries fuel)
    | _ =>
      expect .blockEnd
      return []

/-- Reads the entries of a sequence in brackets. An entry may be a mapping of one entry without
brackets of its own. -/
def flowItems (first : Bool) : Nat → Compose (List Node)
  | 0 => failure
  | fuel + 1 => do
    if ← atAny [.flowSequenceEnd] then
      skip
      return []
    if !first then expect .flowEntry
    match ← peek with
    | some .flowSequenceEnd =>
      skip
      return []
    | some .key =>
      skip
      let item ← flowPair fuel
      return item :: (← flowItems false fuel)
    | _ =>
      let item ← node false false fuel
      return item :: (← flowItems false fuel)

/-- Reads a mapping of one entry. If its key is left out, the token behind the sign of the key goes
with it. -/
def flowPair : Nat → Compose Node
  | 0 => failure
  | fuel + 1 => do
    let keyMissing ← atAny [.value, .flowEntry, .flowSequenceEnd]
    let key ←
      if keyMissing then do
        skip
        pure Node.blank
      else node false false fuel
    let value ←
      if ← atAny [.value] then do
        skip
        nodeBefore [.flowEntry, .flowSequenceEnd] false false fuel
      else pure .blank
    return .mapping none [(key, value)]

/-- Reads the entries of a mapping in brackets. An entry may be a key alone. -/
def flowEntries (first : Bool) : Nat → Compose (List (Node × Node))
  | 0 => failure
  | fuel + 1 => do
    if ← atAny [.flowMappingEnd] then
      skip
      return []
    if !first then expect .flowEntry
    match ← peek with
    | some .flowMappingEnd =>
      skip
      return []
    | some .key =>
      skip
      let key ← nodeBefore [.value, .flowEntry, .flowMappingEnd] false false fuel
      let value ←
        if ← atAny [.value] then do
          skip
          nodeBefore [.flowEntry, .flowMappingEnd] false false fuel
        else pure .blank
      return (key, value) :: (← flowEntries false fuel)
    | _ =>
      let key ← node false false fuel
      return (key, .blank) :: (← flowEntries false fuel)

end

/-! ## 5. Documents -/

/-- What handles stand for unless a text says something else. -/
def commonHandles : List (String × String) := [("!", "!"), ("!!", "tag:yaml.org,2002:")]

/-- Reads the directives before a document: at most one version, which is 1.1 or 1.2, and at most
one expansion of each handle. -/
def directives (hasVersion : Bool) : Nat → Compose Unit
  | 0 => failure
  | fuel + 1 => do
    match ← peek with
    | some (.version major minor) =>
      guard (!hasVersion && major == 1 && (minor == 1 || minor == 2))
      skip
      directives true fuel
    | some (.shorthand handle expansion) =>
      let state ← get
      guard (state.handles.lookup handle).isNone
      set { state with handles := state.handles ++ [(handle, expansion)] }
      skip
      directives hasVersion fuel
    | _ => return ()

/-- Whether the tokens announce a document, by a directive or by its mark. -/
def announcesDocument : Option Token → Bool
  | some (.version ..) | some (.shorthand ..) | some .documentStart => true
  | _ => false

/-- Whether the next token ends a document without content. -/
def endsDocument : Option Token → Bool
  | none | some .documentEnd => true
  | next => announcesDocument next

/-- Reads the node of a document. -/
def document (fuel : Nat) : Compose Node := do
  let announced := announcesDocument (← peek)
  if announced then
    directives false fuel
    expect .documentStart
  modify fun state => { state with handles := state.handles ++ commonHandles }
  if announced && endsDocument (← peek) then return .blank
  node true false fuel

end Composer

/-- The document that tokens describe; there must be no second one. -/
def Document.ofTokens? (tokens : List Token) : Option Document := do
  if tokens.isEmpty then return ⟨none, []⟩
  let (root, state) ← Composer.document (4 * tokens.length + 8) { tokens }
  guard (state.tokens.all (· == .documentEnd))
  return ⟨some root, state.nodes⟩

/-- The document of a text. -/
def Document.ofText? (text : String) : Option Document :=
  (Token.ofText? text).bind Document.ofTokens?

end RouterConfig.Yaml
