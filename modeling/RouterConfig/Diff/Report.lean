/-
RouterConfig.Diff.Report — a comparison as text, as JSON and as a line of
counts.
-/
import RouterConfig.Diff.Basic
import RouterConfig.Json.Printer

namespace RouterConfig

namespace DiffEntry

/-- The lines of an entry: a sign with the path, and the differences indented. -/
def lines : DiffEntry String → List String
  | .identical path => ["= " ++ path]
  | .modified path differences => ("~ " ++ path) :: differences.map ("  " ++ ·)
  | .onlyLeft path => ["- " ++ path]
  | .onlyRight path => ["+ " ++ path]

/-- An entry as JSON: its kind, its path, and its differences where it can have some. -/
def toJson : DiffEntry String → Json
  | .identical path => .object [("type", .string "Identical"), ("path", .string path)]
  | .modified path differences =>
    .object [("type", .string "Modified"), ("path", .string path),
      ("differences", .strings differences)]
  | .onlyLeft path => .object [("type", .string "OnlyLeft"), ("path", .string path)]
  | .onlyRight path => .object [("type", .string "OnlyRight"), ("path", .string path)]

/-- Whether the entry has no difference. -/
def isIdentical : DiffEntry α → Bool
  | .identical _ => true
  | _ => false

/-- Whether the entry has differences. -/
def isModified : DiffEntry α → Bool
  | .modified .. => true
  | _ => false

/-- Whether the entry is of the left side alone. -/
def isOnlyLeft : DiffEntry α → Bool
  | .onlyLeft _ => true
  | _ => false

/-- Whether the entry is of the right side alone. -/
def isOnlyRight : DiffEntry α → Bool
  | .onlyRight _ => true
  | _ => false

end DiffEntry

namespace Diff

/-- The lines of a comparison. -/
def text (entries : List (DiffEntry String)) : String :=
  Text.join "\n" (entries.flatMap DiffEntry.lines)

/-- A comparison as JSON over several lines. -/
def json (entries : List (DiffEntry String)) : String :=
  (Json.array (entries.map DiffEntry.toJson)).pretty

/-- How many entries of each kind there are. -/
def summary (entries : List (DiffEntry String)) : String :=
  let count (p : DiffEntry String → Bool) : String := Text.ofNat (entries.countP p)
  "identical=" ++ count DiffEntry.isIdentical ++ " modified=" ++ count DiffEntry.isModified ++
    " only_left=" ++ count DiffEntry.isOnlyLeft ++ " only_right=" ++ count DiffEntry.isOnlyRight

end Diff

end RouterConfig
