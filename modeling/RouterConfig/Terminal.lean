/-
RouterConfig.Terminal — what a run reports on a terminal, with or without
colours.

A coloured text stands between the code of its colour and the code that
ends all colours. Where the text itself holds the ending code, the colour
is taken up again behind it.
-/
import RouterConfig.Definition.Validation
import RouterConfig.Diff.Report
import RouterConfig.Generation.Basic

namespace RouterConfig.Terminal

/-! ## 1. Colours -/

/-- A colour of the terminal. -/
inductive Colour where
  | red
  | green
  | yellow
  | magenta
  | cyan
  deriving DecidableEq, Inhabited, Repr

/-- The code that starts a colour. -/
def Colour.code : Colour → List Char
  | .red => "\x1B[31m".toList
  | .green => "\x1B[32m".toList
  | .yellow => "\x1B[33m".toList
  | .magenta => "\x1B[35m".toList
  | .cyan => "\x1B[36m".toList

/-- The code that ends all colours. -/
def plainCode : List Char := "\x1B[0m".toList

/-- The text with a colour taken up again behind each code that ends it. `skip` counts the
characters left of such a code. -/
def resume (colour : Colour) (skip : Nat) : List Char → List Char
  | [] => []
  | c :: cs =>
    match skip with
    | skip + 1 => c :: (if skip = 0 then colour.code else []) ++ resume colour skip cs
    | 0 =>
      if plainCode.isPrefixOf (c :: cs) then c :: resume colour (plainCode.length - 1) cs
      else c :: resume colour 0 cs

/-- The text in a colour, or as it is when colours are off. -/
def paint (colours : Bool) (colour : Colour) (text : String) : String :=
  if colours then String.ofList (colour.code ++ resume colour 0 text.toList ++ plainCode) else text

/-! ## 2. Comparisons -/

/-- The colour of a line of a comparison, by its sign. -/
def lineColour? : List Char → Option Colour
  | '+' :: _ => some .green
  | '-' :: _ => some .red
  | '~' :: _ => some .yellow
  | _ => none

/-- A line of a comparison in its colour. -/
def paintLine (colours : Bool) (line : List Char) : String :=
  match lineColour? line with
  | some colour => paint colours colour (String.ofList line)
  | none => String.ofList line

/-- The lines of a comparison. -/
def diffText (colours : Bool) (entries : List (DiffEntry String)) : String :=
  Text.join "\n" ((Text.lines (Diff.text entries).toList).map (paintLine colours))

/-- The counts of a comparison. -/
def diffSummary (colours : Bool) (entries : List (DiffEntry String)) : String :=
  paint colours .cyan (Diff.summary entries)

/-! ## 3. Runs -/

/-- A line for each issue. -/
def issues (colours : Bool) (issues : List Issue) : String :=
  Text.join "\n" (issues.map fun issue =>
    paint colours .magenta ("! " ++ issue.path ++ ": " ++ issue.message))

/-- The counts of a run and of the issues found in it. -/
def runSummary (colours : Bool) (run : Generation) (issues : Nat) : String :=
  paint colours .cyan ("definitions=" ++ Text.ofNat run.tree.size ++
    " counters=" ++ Text.ofNat run.counters.names.length ++ " issues=" ++ Text.ofNat issues)

end RouterConfig.Terminal
