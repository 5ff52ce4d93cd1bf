/-
RouterConfig.Command.Run — what a command prints, and whether it succeeds.

A run reads files and changes nothing. It ends with the first failure; what
was printed before that stays printed.
-/
import RouterConfig.Command.Arguments
import RouterConfig.Definition.Report
import RouterConfig.Diff.Definition
import RouterConfig.Diff.Schema
import RouterConfig.Generation.Networks
import RouterConfig.Loading
import RouterConfig.Merge
import RouterConfig.Schema.Directory
import RouterConfig.Schema.Report
import RouterConfig.Terminal

namespace RouterConfig

/-! ## 1. Failures -/

/-- Why a command fails: what failed, and what lies behind that, the nearest cause first. -/
structure Failure where
  message : String
  causes : List String := []
  deriving DecidableEq, Inhabited, Repr

namespace Failure

/-- A cause with its sign; further lines of it are indented as far as the first. -/
def indented (sign cause : String) : String :=
  let lines := (Text.splitAll '\n' cause.toList).map String.ofList
  sign ++ Text.join ("\n" ++ Text.times sign.length " ") lines

/-- The causes with numbers from `n` on. -/
def numbered (n : Nat) : List String → List String
  | [] => []
  | cause :: rest =>
    let digits := Text.ofNat n
    indented (Text.times (5 - digits.length) " " ++ digits ++ ": ") cause :: numbered (n + 1) rest

/-- The lines of the causes. A single cause has no number. -/
def causeLines : List String → List String
  | [cause] => [indented "    " cause]
  | causes => numbered 0 causes

/-- What a failure prints. -/
def report (failure : Failure) : String :=
  let causes :=
    if failure.causes.isEmpty then ""
    else "\n\nCaused by:\n" ++ Text.join "\n" (causeLines failure.causes)
  "Error: " ++ failure.message ++ causes ++ "\n"

/-- The failure of an unreadable grammar. -/
def ofReadError (templates : String) (e : Schema.ReadError) : Failure :=
  ⟨"failed to parse templates " ++ templates, [e.message, e.cause.message]⟩

/-- The failure of a file that does not give what it should hold. -/
def ofLoadError (e : LoadError) : Failure :=
  ⟨e.message, (e.unreadable.map FileError.message).toList⟩

/-- The failure of a generation run. -/
def ofGenerationError (inventory : String) (e : GenerationError) : Failure :=
  ⟨"failed to generate " ++ inventory, [e.message]⟩

/-- The failure of a merge. -/
def ofMergeError (e : MergeError) : Failure :=
  let causes := match e with
    | .definition cause => [e.message, cause.message]
    | _ => [e.message]
  ⟨"failed to merge generated trees", causes⟩

end Failure

/-! ## 2. Outcomes -/

/-- What a run has printed: its output, and its messages, which are kept apart. -/
structure Printed where
  output : String := ""
  messages : String := ""
  deriving DecidableEq, Inhabited, Repr

/-- What a run comes to. -/
structure Outcome where
  printed : Printed
  success : Bool
  deriving DecidableEq, Inhabited, Repr

namespace Command

/-- A step of a run. -/
abbrev Step := EStateM Failure Printed

/-- Prints text. -/
def print (text : String) : Step Unit :=
  modify fun printed => { printed with output := printed.output ++ text }

/-- Prints text and ends the line. -/
def printLine (text : String) : Step Unit := print (text ++ "\n")

/-- Prints a message and ends the line. -/
def printMessage (text : String) : Step Unit :=
  modify fun printed => { printed with messages := printed.messages ++ text ++ "\n" }

/-- The result of a part of a run, whose error is a failure. -/
def attempt (failure : ε → Failure) : Except ε α → Step α
  | .ok a => return a
  | .error e => throw (failure e)

/-! ## 3. Sources -/

/-- The grammar at a path. -/
def loadSchema (disk : Disk) (templates : String) : Step SchemaNode :=
  attempt (Failure.ofReadError templates) (Schema.ofDisk disk templates)

/-- Where the grammar is: an option comes before the settings. -/
def templatesOf (sources : Sources) (settings : Settings) : Option String :=
  sources.templates <|> settings.templatesDir

/-- The settings, and the grammar. -/
def loadSources (disk : Disk) (sources : Sources) : Step (Settings × SchemaNode) := do
  let settings ← attempt Failure.ofLoadError (Settings.resolve disk sources.config)
  match templatesOf sources settings with
  | none => throw ⟨"no template directory: pass --templates or set templates_dir", []⟩
  | some templates => return (settings, ← loadSchema disk templates)

/-- What an inventory gives. -/
def generateFile (disk : Disk) (settings : Settings) (schema : SchemaNode) (inventory : String) :
    Step Generation := do
  let content ← attempt Failure.ofLoadError (Inventory.load disk inventory)
  attempt (Failure.ofGenerationError inventory) (Generation.generate schema settings content)

/-! ## 4. Output -/

/-- Prints a tree. -/
def printTree (format : Format) (tree : Definitions) : Step Unit :=
  match format with
  | .text => print tree.outline
  | .json => printLine tree.toJson.pretty

/-- Prints a comparison, or its counts. -/
def printDiff (colours : Bool) (format : Format) (summary : Bool)
    (entries : List (DiffEntry Difference)) : Step Unit :=
  let entries := entries.map DiffEntry.inWords
  if summary then printLine (Terminal.diffSummary colours entries)
  else
    match format with
    | .text => printLine (Terminal.diffText colours entries)
    | .json => printLine (Diff.json entries)

/-- Fails if there are issues, after printing them. -/
def checkIssues (colours : Bool) (issues : List Issue) : Step Unit := do
  if !issues.isEmpty then
    printMessage (Terminal.issues colours issues)
    throw ⟨"validation failed: " ++ Text.ofNat issues.length ++ " issue(s)", []⟩

/-! ## 5. Commands -/

/-- The node of a grammar at a path whose names stand between slashes; empty names do not count. -/
def nodeAt (schema : SchemaNode) (path : String) : Step SchemaNode :=
  let names := ((Text.splitAll '/' path.toList).filter (!·.isEmpty)).map String.ofList
  match schema.find? names with
  | some node => return node
  | none => throw ⟨"schema path '" ++ path ++ "' not found", []⟩

/-- Prints what an inventory gives, and checks it if that is asked for. -/
def printGeneration (patterns : PatternReader) (disk : Disk) (colours : Bool) (inventory : String)
    (sources : Sources) (format : Format) (summary validate : Bool) : Step Unit := do
  let (settings, schema) ← loadSources disk sources
  let run ← generateFile disk settings schema inventory
  let issues := if validate then run.tree.validate patterns else []
  if summary then
    printLine (Terminal.runSummary colours run issues.length)
    printLine run.counters.report
  else printTree format run.tree
  checkIssues colours issues

/-- The steps of a command. -/
def steps (patterns : PatternReader) (disk : Disk) (colours : Bool) : Command → Step Unit
  | .inspect templates path depth constraints => do
    let schema ← loadSchema disk templates
    let node ← match path with
      | none => pure schema
      | some path => nodeAt schema path
    print (node.outline depth constraints)
  | .generate inventory sources format summary validate =>
    printGeneration patterns disk colours inventory sources format summary validate
  | .merge inventories sources format => do
    let (settings, schema) ← loadSources disk sources
    let runs ← inventories.mapM (generateFile disk settings schema)
    match ← attempt Failure.ofMergeError (Definitions.mergeAll (runs.map (·.tree))) with
    | none => throw ⟨"no inventories to merge", []⟩
    | some tree => printTree format tree
  | .diff left right sources format summary identical ignore => do
    let (settings, schema) ← loadSources disk sources
    let left ← generateFile disk settings schema left
    let right ← generateFile disk settings schema right
    let options : DiffOptions := { includeIdentical := identical, ignore }
    printDiff colours format summary (left.tree.diff options right.tree)
  | .schemaDiff left right format summary identical maxDepth ignore => do
    let left ← loadSchema disk left
    let right ← loadSchema disk right
    printDiff colours format summary
      (left.diff { includeIdentical := identical, maxDepth, ignore } right)

/-- What a command prints, and whether it succeeds. -/
def run (patterns : PatternReader) (disk : Disk) (colours : Bool) (command : Command) : Outcome :=
  match command.steps patterns disk colours {} with
  | .ok () printed => ⟨printed, true⟩
  | .error failure printed =>
    ⟨{ printed with messages := printed.messages ++ failure.report }, false⟩

/-! ## 6. Places -/

/-- Where a command takes the grammar and the settings from, if it asks for an inventory. -/
def sources? : Command → Option Sources
  | .inspect .. | .schemaDiff .. => none
  | .generate _ sources .. | .merge _ sources _ | .diff _ _ sources .. => some sources

/-- The paths that a command reads, as far as the files that are known tell. -/
def places (disk : Disk) (command : Command) : List String :=
  let own := match command with
    | .inspect templates .. => [templates]
    | .generate inventory .. => [inventory]
    | .merge inventories .. => inventories
    | .diff left right .. | .schemaDiff left right .. => [left, right]
  let shared := match command.sources? with
    | none => []
    | some sources =>
      sources.config.toList ++
        match Settings.resolve disk sources.config with
        | .ok settings => (templatesOf sources settings).toList
        | .error _ => sources.templates.toList
  own ++ shared

end Command

end RouterConfig
