/-
RouterConfig.Command.Arguments — commands from the words of a command line.

A command takes options by name, each with the word behind it or behind an
equals sign as its value, and flags, which have none. All other words are
its operands; behind a double dash every word is one. An option or a flag
may be given once, unless it says otherwise.
-/
import RouterConfig.Text.Integer
import RouterConfig.Text.Basic

namespace RouterConfig

/-! ## 1. Commands -/

/-- The form of an output. -/
inductive Format where
  | text
  | json
  deriving DecidableEq, Inhabited, Repr

/-- Where a command takes the grammar and the settings from. -/
structure Sources where
  templates : Option String := none
  config : Option String := none
  deriving DecidableEq, Inhabited, Repr

/-- A command. -/
inductive Command where
  /-- Shows a grammar from a path on. -/
  | inspect (templates : String) (path : Option String) (depth : Nat) (constraints : Bool)
  /-- Shows what an inventory gives. -/
  | generate (inventory : String) (sources : Sources) (format : Format) (summary validate : Bool)
  /-- Shows what several inventories give together. -/
  | merge (inventories : List String) (sources : Sources) (format : Format)
  /-- Compares what two inventories give. -/
  | diff (left right : String) (sources : Sources) (format : Format) (summary identical : Bool)
    (ignore : List String)
  /-- Compares two grammars. -/
  | schemaDiff (left right : String) (format : Format) (summary identical : Bool) (maxDepth : Int)
    (ignore : List String)
  deriving DecidableEq, Inhabited, Repr

namespace Command

/-! ## 2. Words -/

/-- An option or a flag of a command. -/
structure Switch where
  name : String
  /-- Whether it has a value. -/
  hasValue : Bool := true
  /-- Whether it may be given more than once. -/
  repeats : Bool := false
  /-- Whether its value may be a number with a minus sign. -/
  negative : Bool := false

/-- The words of a command line, sorted. -/
structure Words where
  /-- The options and flags, in order. -/
  switches : List (String × String) := []
  /-- The operands, in groups of those between which nothing else stands. -/
  operands : List (List String) := []
  /-- Whether the next operand belongs to the last group. -/
  groupOpen : Bool := false

namespace Words

/-- The words with one more operand. -/
def addOperand (words : Words) (word : String) : Words :=
  match words.groupOpen, words.operands.getLast? with
  | true, some group => { words with operands := words.operands.dropLast ++ [group ++ [word]] }
  | _, _ => { words with operands := words.operands ++ [[word]], groupOpen := true }

/-- The words with one more option or flag. -/
def addSwitch (words : Words) (name value : String) : Words :=
  { words with switches := words.switches ++ [(name, value)], groupOpen := false }

/-- Whether a word can be the value of an option. What begins with a dash is another option, but for
a dash alone and, for some options, a number. -/
def isValue (switch : Switch) (word : String) : Bool :=
  match word.toList with
  | '-' :: rest =>
    rest.isEmpty || (switch.negative && (Text.readDigits rest).isSome)
  | _ => true

/-- The name and the value of a word that begins with two dashes, of which `chars` is the rest. -/
def splitOption (chars : List Char) : String × Option String :=
  match Text.cut '=' chars with
  | some (name, value) => (String.ofList name, some (String.ofList value))
  | none => (String.ofList chars, none)

/-- Sorts words by the options and flags of a command. The letter `v` is short for a flag of every
command. -/
def sort (switches : List Switch) (words : Words) : List String → Option Words
  | [] => some words
  | word :: rest =>
    match word.toList with
    | ['-', '-'] => some (rest.foldl addOperand words)
    | '-' :: '-' :: chars =>
      let (name, value?) := splitOption chars
      match switches.find? (·.name == name), value?, rest with
      | none, _, _ => none
      | some switch, some value, rest =>
        if switch.hasValue then sort switches (words.addSwitch name value) rest else none
      | some switch, none, [] =>
        if switch.hasValue then none else some (words.addSwitch name "")
      | some switch, none, next :: rest =>
        if !switch.hasValue then sort switches (words.addSwitch name "") (next :: rest)
        else if isValue switch next then sort switches (words.addSwitch name next) rest
        else none
    | '-' :: c :: chars =>
      if (c :: chars).all (· == 'v') then sort switches (words.addSwitch "verbose" "") rest
      else none
    | _ => sort switches (words.addOperand word) rest

/-- Whether no option or flag is given more often than it may be. -/
def areWellUsed (words : Words) (switches : List Switch) : Bool :=
  switches.all fun switch => switch.repeats || words.switches.countP (·.1 == switch.name) ≤ 1

/-- All operands. -/
def allOperands (words : Words) : List String := words.operands.flatten

/-! ## 3. Values -/

/-- The value of an option, if it is given. -/
def value? (words : Words) (name : String) : Option String := words.switches.lookup name

/-- All values of an option. -/
def values (words : Words) (name : String) : List String :=
  (words.switches.filter (·.1 == name)).map (·.2)

/-- Whether a flag is given. -/
def has (words : Words) (name : String) : Bool := (words.value? name).isSome

/-- The value of an option read by `read`, or a default. -/
def read (words : Words) (name : String) (default : α) (read : String → Option α) : Option α :=
  match words.value? name with
  | none => some default
  | some text => read text

end Words

/-- A path, which is not empty. -/
def readPath (text : String) : Option String := if text.isEmpty then none else some text

/-- The form of an output. -/
def readFormat (text : String) : Option Format :=
  if text == "text" then some .text else if text == "json" then some .json else none

/-- A depth. -/
def readDepth (text : String) : Option Nat := Text.readNat (UInt64.size - 1) text.toList

/-- A limit of 32 bits on a depth, which may be negative. -/
def readLimit (text : String) : Option Int :=
  ((Text.readInt64 text.toList).map (·.toInt)).filter fun n => Int32.minValue.toInt ≤ n && n ≤ Int32.maxValue.toInt

/-! ## 4. The commands' own words -/

/-- A flag. -/
def flag (name : String) : Switch := { name, hasValue := false }

/-- What every command knows. -/
def common : List Switch := [{ flag "verbose" with repeats := true }]

/-- The options for the grammar and the settings. -/
def sourceSwitches : List Switch := [{ name := "templates" }, { name := "config" }]

/-- The options and flags of a comparison. -/
def diffSwitches : List Switch :=
  [{ name := "format" }, flag "summary", flag "identical", { name := "ignore", repeats := true }]

/-- Where a command takes the grammar and the settings from. -/
def readSources (words : Words) : Option Sources := do
  let templates ← words.read "templates" none fun text => (readPath text).map some
  let config ← words.read "config" none fun text => (readPath text).map some
  some { templates, config }

/-- The form of the output, which is text unless something else is asked for. -/
def readOutput (words : Words) : Option Format := words.read "format" .text readFormat

/-- Showing a grammar. -/
def readInspect (words : Words) : Option Command :=
  match words.allOperands with
  | [templates] => do
    let depth ← words.read "depth" 3 readDepth
    some (.inspect (← readPath templates) (words.value? "path") depth (words.has "constraints"))
  | _ => none

/-- Generating. -/
def readGenerate (words : Words) : Option Command :=
  match words.allOperands with
  | [inventory] => do
    some (.generate (← readPath inventory) (← readSources words) (← readOutput words)
      (words.has "summary") (words.has "validate"))
  | _ => none

/-- Merging. Each group of inventories has at least two. -/
def readMerge (words : Words) : Option Command := do
  guard (!words.operands.isEmpty && words.operands.all (2 ≤ ·.length))
  let inventories ← words.allOperands.mapM readPath
  some (.merge inventories (← readSources words) (← readOutput words))

/-- Comparing inventories. -/
def readDiff (words : Words) : Option Command :=
  match words.allOperands with
  | [left, right] => do
    some (.diff (← readPath left) (← readPath right) (← readSources words) (← readOutput words)
      (words.has "summary") (words.has "identical") (words.values "ignore"))
  | _ => none

/-- Comparing grammars. -/
def readSchemaDiff (words : Words) : Option Command :=
  match words.allOperands with
  | [left, right] => do
    let maxDepth ← words.read "max-depth" (-1) readLimit
    some (.schemaDiff (← readPath left) (← readPath right) (← readOutput words)
      (words.has "summary") (words.has "identical") maxDepth (words.values "ignore"))
  | _ => none

/-- The options and flags of the command of this name, and how its words are read. -/
def ofName? : String → Option (List Switch × (Words → Option Command))
  | "inspect" =>
    some ([{ name := "path" }, { name := "depth" }, flag "constraints"], readInspect)
  | "generate" =>
    some (sourceSwitches ++ [{ name := "format" }, flag "summary", flag "validate"], readGenerate)
  | "merge" => some (sourceSwitches ++ [{ name := "format" }], readMerge)
  | "diff" => some (sourceSwitches ++ diffSwitches, readDiff)
  | "schema-diff" =>
    some (diffSwitches ++ [{ name := "max-depth", negative := true }], readSchemaDiff)
  | _ => none

/-- Whether a word asks for more messages. -/
def isVerbose (word : String) : Bool :=
  word == "--verbose" ||
    match word.toList with
    | '-' :: c :: chars => (c :: chars).all (· == 'v')
    | _ => false

/-- The command of a command line. The flag that every command knows may also stand before
its name. -/
def ofArguments? : List String → Option Command
  | [] => none
  | word :: rest =>
    if isVerbose word then ofArguments? rest
    else do
      let (switches, read) ← ofName? word
      let words ← Words.sort (switches ++ common) {} rest
      guard (words.areWellUsed (switches ++ common))
      read words

end Command

end RouterConfig
