/-
RouterConfig.Diff.Definition — the comparison of two trees of definitions.

All keys of both trees are gone through in order. A key that one tree lacks
is an entry only where its parent is in both, so a branch is reported once,
at its top. The parent is that of the definition itself: a step may hold a
slash, so it cannot be read off the key.
-/
import RouterConfig.Definition.Tree
import RouterConfig.Diff.Schema

namespace RouterConfig

namespace Definition

/-- A text that may be missing, as difference messages show it. -/
def showText : Option String → String := Text.quoteOption Text.quote

/-- Texts that may be missing, as difference messages show them. -/
def showTexts : Option (List String) → String := Text.quoteOption Text.quoteList

/-- The differences of the grammar nodes of two definitions. -/
def nodeDifferences : Option SchemaNode → Option SchemaNode → List Difference
  | some expected, some actual =>
    (expected.differences actual).map fun d => { d with field := "schema node " ++ d.field }
  | some _, none => [⟨"schema node", "bound", "unbound"⟩]
  | none, some _ => [⟨"schema node", "unbound", "bound"⟩]
  | none, none => []

/-- The differences of two definitions, apart from what is below them. -/
def differences (expected actual : Definition) : List Difference :=
  Difference.ofField "name" Text.quote expected.name actual.name ++
  Difference.ofField "path" Text.quote expected.parent.key actual.parent.key ++
  Difference.ofField "comment" showText expected.comment actual.comment ++
  Difference.ofField "value" showText expected.value.single? actual.value.single? ++
  Difference.ofField "values" showTexts expected.value.multi? actual.value.multi? ++
  nodeDifferences expected.node actual.node

end Definition

namespace Definitions

/-- The keys of two trees in order. -/
def unionPaths (left right : Definitions) : List String :=
  (Dictionary.ofList ((left.paths ++ right.paths).map fun key => (key, ()))).keys

/-- Whether the parent of a definition is missing from another tree. A root misses none. -/
def parentMissing (other : Definitions) (d : Definition) : Bool :=
  !d.parent.isRoot && !other.contains d.parent.key

/-- The entries for one key. -/
def diffPath (options : DiffOptions) (left right : Definitions) (path : String) :
    List (DiffEntry Difference) :=
  let outside (d : Definition) : Bool := options.ignores path || options.exceeds d.parent.length
  match left.get? path, right.get? path with
  | some l, some r => if outside l then [] else options.compared path (l.differences r)
  | some l, none => if outside l || right.parentMissing l then [] else [.onlyLeft path]
  | none, some r => if outside r || left.parentMissing r then [] else [.onlyRight path]
  | none, none => []

/-- The comparison of two trees. -/
def diff (options : DiffOptions) (left right : Definitions) : List (DiffEntry Difference) :=
  (unionPaths left right).flatMap (diffPath options left right)

end Definitions

end RouterConfig
