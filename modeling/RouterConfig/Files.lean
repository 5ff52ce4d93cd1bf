/-
RouterConfig.Files — files and directories as values, and the texts of
paths to them.

An `Entry` is a file with its bytes or a directory with its entries, in the
order in which the file system happens to list them. A `Disk` says what
stands at a path, or why nothing can be read there.
-/
import RouterConfig.Text.Basic

namespace RouterConfig

/-! ## 1. Entries -/

/-- A file or a directory. -/
inductive Entry where
  | file (content : ByteArray)
  | directory (entries : List (String × Entry))
  deriving Inhabited

/-- Why nothing can be read at a path. -/
inductive FileError where
  | notFound
  | notDirectory
  | isDirectory
  | notText
  /-- A cause that only the system can name. -/
  | other (text : String)
  deriving DecidableEq, Inhabited, Repr

/-- What is said of a file error. -/
def FileError.message : FileError → String
  | .notFound => "No such file or directory (os error 2)"
  | .notDirectory => "Not a directory (os error 20)"
  | .isDirectory => "Is a directory (os error 21)"
  | .notText => "stream did not contain valid UTF-8"
  | .other text => text

namespace Entry

/-- The text of a file. -/
def text? : Entry → Except FileError String
  | .directory _ => .error .isDirectory
  | .file content =>
    match String.fromUTF8? content with
    | some text => .ok text
    | none => .error .notText

/-- The entry of this name in a list of entries. -/
def named? (name : String) (entries : List (String × Entry)) : Option Entry :=
  (entries.find? fun entry => entry.1 == name).map (·.2)

/-- What stands at the end of a path of names, seen from an entry with the directories around it. -/
def walk (around : List Entry) (entry : Entry) : List String → Except FileError Entry
  | [] => .ok entry
  | name :: rest =>
    match entry with
    | .file _ => .error .notDirectory
    | .directory entries =>
      if name == "" || name == "." then walk around entry rest
      else if name == ".." then
        match around with
        | [] => walk [] entry rest
        | parent :: around => walk around parent rest
      else
        match named? name entries with
        | none => .error .notFound
        | some next => walk (entry :: around) next rest

/-- The entry with another put at the end of a path of names; directories on the way are made. -/
def insert (entry : Entry) (names : List String) (new : Entry) : Entry :=
  match names with
  | [] => new
  | name :: rest =>
    let entries := match entry with
      | .file _ => []
      | .directory entries => entries
    let inner := insert ((named? name entries).getD (.directory [])) rest new
    .directory (entries.filter (fun e => e.1 != name) ++ [(name, inner)])

end Entry

/-! ## 2. Disks -/

/-- What stands at each path. -/
abbrev Disk := String → Except FileError Entry

namespace Disk

/-- The disk whose working directory is this entry; nothing stands at an absolute path. -/
def ofEntry (root : Entry) : Disk := fun path =>
  if path.isEmpty || path.toList.head? == some '/' then .error .notFound
  else root.walk [] ((Text.splitAll '/' path.toList).map String.ofList)

/-- The text of the file at a path. -/
def readText (disk : Disk) (path : String) : Except FileError String := do
  (← disk path).text?

/-- The entries of the directory at a path. -/
def readDirectory (disk : Disk) (path : String) : Except FileError (List (String × Entry)) := do
  match ← disk path with
  | .file _ => .error .notDirectory
  | .directory entries => .ok entries

end Disk

/-! ## 3. Path texts -/

namespace FilePath

/-- Whether a path starts at the root of the file system. -/
def isAbsolute (path : String) : Bool := path.toList.head? == some '/'

/-- The path of `name` seen from `base`. -/
def join (base name : String) : String :=
  if isAbsolute name || base.isEmpty then name
  else if base.toList.getLast? == some '/' then base ++ name
  else base ++ "/" ++ name

/-- The components of a path that count: neither empty nor a dot. -/
def components (path : String) : List String :=
  ((Text.splitAll '/' path.toList).map String.ofList).filter fun c => !(c == "" || c == ".")

/-- The last component of a path, empty when it has none or leads upwards. -/
def baseName (path : String) : String :=
  match (components path).getLast? with
  | some name => if name == ".." then "" else name
  | none => ""

/-- The text without what makes no difference at its end: slashes, and dots after a slash. Written
for reversed text. -/
def trimReversed : List Char → List Char
  | '/' :: [] => ['/']
  | '/' :: cs => trimReversed cs
  | '.' :: '/' :: [] => ['/']
  | '.' :: '/' :: cs => trimReversed cs
  | cs => cs

/-- The path of the directory that holds a file. -/
def parent (path : String) : String :=
  let reversed := (path.toList.reverse.dropWhile (· != '/'))
  String.ofList (trimReversed reversed).reverse

end FilePath

end RouterConfig
