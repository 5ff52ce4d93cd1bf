/-
RouterConfig.Loading — inventories and settings from files.
-/
import RouterConfig.Files
import RouterConfig.Inventory.Yaml
import RouterConfig.Settings.Toml

namespace RouterConfig

/-! ## 1. Errors -/

/-- Why a file does not give what it should hold. -/
structure LoadError where
  /-- What the file should hold, in words. -/
  subject : String
  path : String
  /-- Why the file cannot be read; without that, what it holds cannot be understood. -/
  unreadable : Option FileError
  deriving DecidableEq, Inhabited, Repr

/-- What is said of the error. -/
def LoadError.message (e : LoadError) : String :=
  match e.unreadable with
  | some cause => "failed to read " ++ e.subject ++ " " ++ e.path ++ ": " ++ cause.message
  | none => "failed to parse " ++ e.subject ++ " " ++ e.path

/-- What the file at a path holds. -/
def Disk.load (disk : Disk) (subject path : String) (decode? : String → Option α) :
    Except LoadError α :=
  match disk.readText path with
  | .error cause => .error ⟨subject, path, some cause⟩
  | .ok text =>
    match decode? text with
    | none => .error ⟨subject, path, none⟩
    | some a => .ok a

/-! ## 2. Inventories and settings -/

/-- The inventory in the file at a path. -/
def Inventory.load (disk : Disk) (path : String) : Except LoadError Inventory :=
  disk.load "inventory" path Inventory.ofYaml?

namespace Settings

/-- The settings in the file at a path. A grammar directory is seen from the directory of
the file. -/
def load (disk : Disk) (path : String) : Except LoadError Settings :=
  (disk.load "config file" path Settings.ofToml?).map (seenFrom (FilePath.parent path))

/-- The settings of a run: those of a file if there is one, and the defaults if not. -/
def resolve (disk : Disk) : Option String → Except LoadError Settings
  | some path => load disk path
  | none => .ok {}

/-- Where the settings of a run come from. -/
def source : Option String → String
  | some path => "file:" ++ path
  | none => "embedded"

end Settings

end RouterConfig
