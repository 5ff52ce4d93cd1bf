/-
RouterConfig.Yaml.Decoder — domain values from the nodes of a YAML text.

A decoder knows how many more collections may be nested, so that it comes
to an end on a text that contains itself. The number of aliases that are
followed is limited as well, by the size of the text.
-/
import RouterConfig.Yaml.Meaning
import RouterConfig.Yaml.Node

namespace RouterConfig.Yaml

/-- Decodes with the anchors of a text at hand, and a number of aliases that may still
be followed. -/
abbrev Decode := ReaderT Document (StateT Nat Option)

/-- Decodes a node inside which this many collections may be nested. -/
abbrev Decoder (α : Type) := Nat → Node → Decode α

namespace Decoder

/-! ## 1. Nodes -/

/-- The node itself, or the one that it points to. -/
def resolve : Node → Decode Node
  | .alias anchor => do
    let left ← get
    guard (left > 0)
    set (left - 1)
    (← read).anchor? anchor
  | node => return node

/-- The tag of a kind of values that every text knows. -/
def commonTag (kind : String) : String := "tag:yaml.org,2002:" ++ kind

/-- Whether a tag has a meaning in this text alone. -/
def isLocal (tag : Option String) : Bool := tag.any fun tag => tag.toList.head? == some '!'

/-- Whether a scalar may hold a value that is no text: it is plain, or a literal block with the tag
of that kind. -/
def isWritten (kind : String) (tag : Option String) (style : Style) : Bool :=
  style == .plain || (style == .literal && tag == some (commonTag kind))

/-- Whether a scalar leaves a collection out. -/
def leavesOut (text : String) (style : Style) : Bool := text.isEmpty && style == .plain

/-! ## 2. Scalars -/

/-- The text of a scalar, whatever it means. -/
def text : Decoder String := fun _ node => do
  match ← resolve node with
  | .scalar _ text _ => return text
  | _ => failure

/-- A truth value. -/
def flag : Decoder Bool := fun _ node => do
  match ← resolve node with
  | .scalar tag text style =>
    guard (isWritten "bool" tag style)
    readBool? text
  | _ => failure

/-- A whole number from 0 up to `limit`. -/
def unsigned (limit : Nat) : Decoder Nat := fun _ node => do
  match ← resolve node with
  | .scalar tag text style =>
    guard (isWritten "int" tag style)
    readUnsigned? limit text
  | _ => failure

/-- An unsigned 32-bit number. -/
def uint32 : Decoder UInt32 := fun depth node => .ofNat <$> unsigned (UInt32.size - 1) depth node

/-- An unsigned 16-bit number. -/
def uint16 : Decoder UInt16 := fun depth node => .ofNat <$> unsigned (UInt16.size - 1) depth node

/-- Whether a scalar means that a value is missing; the tag for nothing allows no other meaning. -/
def isMissing (tag : Option String) (text : String) (style : Style) : Decode Bool :=
  if style != .plain then return false
  else
    match tag with
    | none => return text.isEmpty || isNull text
    | some tag =>
      if tag == commonTag "null" then do
        guard (isNull text)
        return true
      else return false

/-- A value that may be missing. -/
def option (decode : Decoder α) : Decoder (Option α) := fun depth node => do
  match ← resolve node with
  | .scalar tag text style =>
    if ← isMissing tag text style then return none
    some <$> decode depth (.scalar tag text style)
  | node => some <$> decode depth node

/-! ## 3. Collections -/

/-- The items of a list. -/
def list (decode : Decoder α) : Decoder (List α) := fun depth node => do
  match ← resolve node, depth with
  | .sequence _ items, depth + 1 => items.mapM (decode depth)
  | .scalar _ text style, _ =>
    guard (leavesOut text style)
    return []
  | _, _ => failure

/-- The entries of a mapping. -/
def mapping (key : Decoder κ) (value : Decoder α) : Decoder (List (κ × α)) := fun depth node => do
  match ← resolve node, depth with
  | .mapping _ entries, depth + 1 =>
    entries.mapM fun entry => return (← key depth entry.1, ← value depth entry.2)
  | .scalar _ text style, _ =>
    guard (leavesOut text style)
    return []
  | _, _ => failure

/-! ## 4. Records -/

/-- The known fields of a record, and how many more collections may be nested in them. -/
structure Record where
  depth : Nat
  fields : List (String × Node)

/-- Whether no text occurs twice. -/
def areDistinct : List String → Bool
  | [] => true
  | name :: rest => !rest.contains name && areDistinct rest

/-- The fields of a record that have these names. None of them may occur twice; other fields do not
count. -/
def record (names : List String) : Decoder Record := fun depth node => do
  let fields ← mapping text (fun _ node => return node) depth node
  let known := fields.filter fun field => names.contains field.1
  guard (areDistinct (known.map (·.1)))
  return ⟨depth - 1, known⟩

/-- A field that has to be there. -/
def Record.required (record : Record) (name : String) (decode : Decoder α) : Decode α := do
  decode record.depth (← record.fields.lookup name)

/-- A field with a default. -/
def Record.defaulted (record : Record) (name : String) (default : α) (decode : Decoder α) :
    Decode α :=
  match record.fields.lookup name with
  | none => return default
  | some node => decode record.depth node

/-- A field whose value may be missing, and which may be missing itself. -/
def Record.optional (record : Record) (name : String) (decode : Decoder α) : Decode (Option α) :=
  record.defaulted name none (option decode)

end Decoder

/-! ## 5. Texts -/

/-- The deepest nesting of collections that is decoded. -/
def nestingLimit : Nat := 128

/-- The value of a text. A text without content counts as an empty scalar. -/
def decode? (decoder : Decoder α) (text : String) : Option α := do
  let document ← Document.ofText? text
  let root := document.root.getD .blank
  let (value, _) ← (decoder nestingLimit root document).run (100 * root.size)
  return value

end RouterConfig.Yaml
