/-
RouterConfig.Schema.Directory — the grammar that a directory tree
describes.

Each directory is a node named after it, and the file `node.def` in it
gives the node's attributes. A directory is kept when its file says
something about a node, or when a directory below it is kept; the root is
always kept. Children come in the order of their names, however the file
system lists them, and of several unreadable files the first in that order
is reported.
-/
import RouterConfig.Files
import RouterConfig.Schema.Grammar

namespace RouterConfig.Schema

/-- The name of the grammar file in a directory. -/
def grammarFile : String := "node.def"

/-- Why a directory tree gives no grammar. -/
inductive ReadError where
  /-- The directory at this path cannot be listed. -/
  | directory (path : String) (cause : FileError)
  /-- The grammar file at this path cannot be read. -/
  | file (path : String) (cause : FileError)
  deriving DecidableEq, Inhabited, Repr

namespace ReadError

/-- What lies behind the error. -/
def cause : ReadError → FileError
  | .directory _ cause => cause
  | .file _ cause => cause

/-- What is said of the error. -/
def message : ReadError → String
  | .directory path cause =>
    "failed to read template directory " ++ path ++ ": " ++ cause.message
  | .file path cause => "failed to read grammar file " ++ path ++ ": " ++ cause.message

end ReadError

/-- What reading one directory gives: its node when it is kept. -/
abbrev Reading := Except ReadError (Option SchemaNode)

/-- The path of a node below the node at `path`. -/
def childPath (path name : String) : String := if path.isEmpty then name else path ++ "/" ++ name

/-- The node with what the grammar file among the entries says, and how many scopes of it say
something. Anything but a file of that name is no grammar file. -/
def readOwn (place : String) (node : SchemaNode) (entries : List (String × Entry)) :
    Except ReadError (SchemaNode × Nat) :=
  match Entry.named? grammarFile entries with
  | some (.file content) =>
    match (Entry.file content).text? with
    | .ok text => .ok (applyText node text)
    | .error cause => .error (.file (FilePath.join place grammarFile) cause)
  | _ => .ok (node, 0)

/-- The readings in the order of their names. -/
def inNameOrder (readings : List (String × Reading)) : List (String × Reading) :=
  readings.mergeSort fun a b => decide (a.1 ≤ b.1)

/-- The kept nodes of several readings, or the first error among them. -/
def keptNodes : List (String × Reading) → Except ReadError (List SchemaNode)
  | [] => .ok []
  | (_, .error e) :: _ => .error e
  | (_, .ok node) :: rest => (keptNodes rest).map (node.toList ++ ·)

/-- The node of a directory from what its grammar file says and what its subdirectories give. -/
def assemble (isRoot : Bool) (own : Except ReadError (SchemaNode × Nat))
    (below : List (String × Reading)) : Reading := do
  let (node, recognized) ← own
  let children ← keptNodes (inNameOrder below)
  let node := { node with children }
  return if isRoot || recognized > 0 || !children.isEmpty then some node else none

mutual

/-- The reading of a directory of this name, which stands at `place` and is the node at `path`; a
file gives none. -/
def readEntry (place name path : String) : Entry → Option Reading
  | .file _ => none
  | .directory entries =>
    some (assemble false (readOwn place ⟨name, .unset, none, [], false, false, path, none, [], [], []⟩
      entries) (readBelow place path entries))

/-- The readings of the directories among the entries of the directory at `place`. -/
def readBelow (place path : String) : List (String × Entry) → List (String × Reading)
  | [] => []
  | (name, entry) :: rest =>
    match readEntry (FilePath.join place name) name (childPath path name) entry with
    | none => readBelow place path rest
    | some reading => (name, reading) :: readBelow place path rest

end

/-- The grammar of the directory tree with these entries, which stands at `place`. -/
def ofEntries (place : String) (entries : List (String × Entry)) : Except ReadError SchemaNode := do
  let root : SchemaNode := { name := FilePath.baseName place, path := "" }
  let node ← assemble true (readOwn place root entries) (readBelow place "" entries)
  return node.getD root

/-- The grammar of the directory tree at a path. -/
def ofDisk (disk : Disk) (place : String) : Except ReadError SchemaNode :=
  match disk.readDirectory place with
  | .error cause => .error (.directory place cause)
  | .ok entries => ofEntries place entries

end RouterConfig.Schema
