/-
RouterConfig.Template — free-form settings: nested names with values.

The entries of a template ascend by name, at every depth; that is part of
the type. What is built from a template therefore does not depend on the
order in which it was written.
-/
import RouterConfig.Dictionary
import RouterConfig.Text.Integer

namespace RouterConfig

/-! ## 1. Values -/

/-- A single value as written in an inventory. -/
inductive Scalar where
  | text (text : String)
  | integer (n : Int64)
  | flag (on : Bool)
  deriving DecidableEq, Inhabited, Repr

/-- The text of a scalar as a configuration value. -/
def Scalar.render : Scalar → String
  | .text s => s
  | .integer n => Text.ofInt n.toInt
  | .flag true => "true"
  | .flag false => "false"

/-- What stands under a name of a template. -/
inductive TemplateValue where
  /-- A single value. -/
  | scalar (scalar : Scalar)
  /-- Several values. -/
  | list (items : List Scalar)
  /-- Entries of its own. -/
  | node (entries : List (String × TemplateValue))
  /-- A name without a value. -/
  | presence
  deriving Inhabited, Repr

/-- Names with what stands under them. -/
abbrev TemplateEntries := List (String × TemplateValue)

/-! ## 2. The order of names -/

namespace TemplateEntries

mutual

/-- Whether the names ascend, here and in the entries below. -/
def Ordered : TemplateEntries → Prop
  | [] => True
  | (name, value) :: rest => (∀ e ∈ rest, name < e.1) ∧ OrderedValue value ∧ Ordered rest

/-- Whether the names below a value ascend. -/
def OrderedValue : TemplateValue → Prop
  | .node entries => Ordered entries
  | _ => True

end

/-- The entries with a value under a name, at the place where the order has it, unless the name is
there already. -/
def place (name : String) (value : TemplateValue) : TemplateEntries → TemplateEntries
  | [] => [(name, value)]
  | (n, v) :: rest =>
    if name < n then (name, value) :: (n, v) :: rest
    else if n = name then (n, v) :: rest
    else (n, v) :: place name value rest

mutual

/-- The entries in order, at every depth. Of two entries with one name the later counts. -/
def arrange : TemplateEntries → TemplateEntries
  | [] => []
  | (name, value) :: rest => place name (arrangeValue value) (arrange rest)

/-- The value with all entries below it in order. -/
def arrangeValue : TemplateValue → TemplateValue
  | .node entries => .node (arrange entries)
  | .scalar s => .scalar s
  | .list items => .list items
  | .presence => .presence

end

theorem mem_place {name : String} {value : TemplateValue} {entries : TemplateEntries}
    {e : String × TemplateValue} (h : e ∈ place name value entries) :
    e = (name, value) ∨ e ∈ entries := by
  induction entries with
  | nil => simpa [place] using h
  | cons head rest ih =>
    simp only [place] at h
    split at h
    · simpa using h
    · split at h
      · exact .inr h
      · rcases List.mem_cons.mp h with rfl | h
        · exact .inr List.mem_cons_self
        · exact (ih h).imp_right (List.mem_cons_of_mem _)

theorem ordered_place {name : String} {value : TemplateValue} {entries : TemplateEntries}
    (hv : OrderedValue value) (h : Ordered entries) : Ordered (place name value entries) := by
  induction entries with
  | nil => simp [place, Ordered, hv]
  | cons head rest ih =>
    obtain ⟨n, v⟩ := head
    have ⟨hn, hvn, hrest⟩ : (∀ e ∈ rest, n < e.1) ∧ OrderedValue v ∧ Ordered rest := by
      simpa [Ordered] using h
    simp only [place]
    split
    case isTrue hlt =>
      refine ⟨?_, hv, h⟩
      intro e he
      rcases List.mem_cons.mp he with rfl | he
      · exact hlt
      · exact String.lt_trans hlt (hn e he)
    case isFalse hlt =>
      split
      case isTrue => exact h
      case isFalse hne =>
        refine ⟨?_, hvn, ih hrest⟩
        intro e he
        rcases mem_place he with rfl | he
        · exact Dictionary.lt_of_not_lt_of_ne hlt hne
        · exact hn e he

mutual

theorem ordered_arrange : (entries : TemplateEntries) → Ordered (arrange entries)
  | [] => trivial
  | (_, value) :: rest => ordered_place (ordered_arrangeValue value) (ordered_arrange rest)

theorem ordered_arrangeValue : (value : TemplateValue) → OrderedValue (arrangeValue value)
  | .node entries => ordered_arrange entries
  | .scalar _ => trivial
  | .list _ => trivial
  | .presence => trivial

end

end TemplateEntries

/-! ## 3. Templates -/

/-- Free-form settings. -/
structure Template where
  entries : TemplateEntries
  /-- The names ascend at every depth. -/
  ordered : TemplateEntries.Ordered entries
  deriving Repr

namespace Template

/-- The template of these entries, put in order; of two entries with one name the later counts. -/
def ofEntries (entries : TemplateEntries) : Template :=
  ⟨TemplateEntries.arrange entries, TemplateEntries.ordered_arrange entries⟩

instance : EmptyCollection Template := ⟨⟨[], trivial⟩⟩

instance : Inhabited Template := ⟨∅⟩

end Template

end RouterConfig
