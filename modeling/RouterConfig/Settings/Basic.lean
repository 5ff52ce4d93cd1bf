/-
RouterConfig.Settings.Basic — the settings of a generation run.
-/
import RouterConfig.Definition.Tree
import RouterConfig.Files

namespace RouterConfig

/-- Where the rule numbers of the firewall start, and how far they are apart. -/
structure CounterSettings where
  ruleStart : UInt32 := 1000
  ruleStep : UInt32 := 10
  deriving DecidableEq, Inhabited, Repr

/-- The same for address translation, and the interface at which connections from outside arrive. -/
structure NatSettings where
  ruleStart : UInt32 := 100
  ruleStep : UInt32 := 10
  inboundInterface : String := "eth0"
  deriving DecidableEq, Inhabited, Repr

/-- The settings of a generation run. -/
structure Settings where
  /-- The directory of the grammar. -/
  templatesDir : Option String := none
  /-- Whether a second value for a path is an error. -/
  strictPaths : Bool := false
  firewall : CounterSettings := {}
  nat : NatSettings := {}
  deriving DecidableEq, Inhabited, Repr

namespace Settings

/-- What happens to a second value for a path. -/
def policy (s : Settings) : DuplicatePolicy := if s.strictPaths then .reject else .warn

/-- The settings with the grammar directory seen from the directory `base`. -/
def seenFrom (base : String) (s : Settings) : Settings :=
  { s with templatesDir := s.templatesDir.map (FilePath.join base) }

end Settings

end RouterConfig
