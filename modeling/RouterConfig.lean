import RouterConfig.Address
import RouterConfig.Command.Arguments
import RouterConfig.Command.Run
import RouterConfig.Definition.Basic
import RouterConfig.Definition.Chain
import RouterConfig.Definition.Report
import RouterConfig.Definition.Tree
import RouterConfig.Definition.Validation
import RouterConfig.Dictionary
import RouterConfig.Diff.Basic
import RouterConfig.Diff.Definition
import RouterConfig.Diff.Report
import RouterConfig.Diff.Schema
import RouterConfig.Files
import RouterConfig.Generation.Basic
import RouterConfig.Generation.Networks
import RouterConfig.Generation.Rules
import RouterConfig.Inventory.Basic
import RouterConfig.Inventory.Json
import RouterConfig.Inventory.Yaml
import RouterConfig.Json.Basic
import RouterConfig.Json.Printer
import RouterConfig.Json.Record
import RouterConfig.Loading
import RouterConfig.Main
import RouterConfig.Merge
import RouterConfig.Path
import RouterConfig.Pattern.Basic
import RouterConfig.Pattern.CharSet
import RouterConfig.Pattern.Matching
import RouterConfig.Pattern.Property
import RouterConfig.Pattern.Reader
import RouterConfig.Pattern.Size
import RouterConfig.Proofs.Definition.Bindings
import RouterConfig.Proofs.Definition.Consistency
import RouterConfig.Proofs.Definition.Demands
import RouterConfig.Proofs.Definition.Edits
import RouterConfig.Proofs.Definition.Expansion
import RouterConfig.Proofs.Definition.Frame
import RouterConfig.Proofs.Definition.Graft
import RouterConfig.Proofs.Definition.Indexed
import RouterConfig.Proofs.Definition.Location
import RouterConfig.Proofs.Definition.Overlay
import RouterConfig.Proofs.Definition.Policy
import RouterConfig.Proofs.Definition.Putting
import RouterConfig.Proofs.Definition.Setting
import RouterConfig.Proofs.Definition.TagNames
import RouterConfig.Proofs.Definition.Templates
import RouterConfig.Proofs.Definition.Values
import RouterConfig.Proofs.Definition.Walk
import RouterConfig.Proofs.Diff.Branches
import RouterConfig.Proofs.Diff.Completeness
import RouterConfig.Proofs.Diff.Levels
import RouterConfig.Proofs.Diff.Merged
import RouterConfig.Proofs.Diff.Restriction
import RouterConfig.Proofs.Diff.Symmetry
import RouterConfig.Proofs.Generation.Blocks
import RouterConfig.Proofs.Generation.Firewall
import RouterConfig.Proofs.Generation.Footprint
import RouterConfig.Proofs.Generation.Numbers
import RouterConfig.Proofs.Generation.Outcome
import RouterConfig.Proofs.Generation.Progress
import RouterConfig.Proofs.Generation.Requests
import RouterConfig.Proofs.Generation.Rules
import RouterConfig.Proofs.Generation.Runs
import RouterConfig.Proofs.Generation.Sequences
import RouterConfig.Proofs.Generation.Split
import RouterConfig.Proofs.Generation.Spots
import RouterConfig.Proofs.Generation.Strict
import RouterConfig.Proofs.Generation.Translation
import RouterConfig.Proofs.Generation.Unambiguous
import RouterConfig.Proofs.Inventory.RoundTrip
import RouterConfig.Proofs.Merge.Adoption
import RouterConfig.Proofs.Merge.Attachment
import RouterConfig.Proofs.Merge.Course
import RouterConfig.Proofs.Merge.Issues
import RouterConfig.Proofs.Merge.Order
import RouterConfig.Proofs.Merge.Override
import RouterConfig.Proofs.Merge.Union
import RouterConfig.Proofs.Path.Key
import RouterConfig.Proofs.Path.Segments
import RouterConfig.Proofs.Schema.Attributes
import RouterConfig.Proofs.Schema.Conjunction
import RouterConfig.Proofs.Schema.Documented
import RouterConfig.Proofs.Schema.Folders
import RouterConfig.Proofs.Schema.Mirror
import RouterConfig.Proofs.Schema.Places
import RouterConfig.Proofs.Schema.Reading
import RouterConfig.Proofs.Schema.Reason
import RouterConfig.Proofs.Schema.Scopes
import RouterConfig.Proofs.Schema.Shapes
import RouterConfig.Proofs.Text.Cutting
import RouterConfig.Proofs.Text.Numerals
import RouterConfig.RuleCounter
import RouterConfig.Schema.Constraint
import RouterConfig.Schema.Directory
import RouterConfig.Schema.Expression
import RouterConfig.Schema.Grammar
import RouterConfig.Schema.Node
import RouterConfig.Schema.Report
import RouterConfig.Schema.ValueType
import RouterConfig.Settings.Basic
import RouterConfig.Settings.Json
import RouterConfig.Settings.Toml
import RouterConfig.Template
import RouterConfig.Terminal
import RouterConfig.Text.Basic
import RouterConfig.Text.Integer
import RouterConfig.Text.Number
import RouterConfig.Text.Quoted
import RouterConfig.Toml.Document
import RouterConfig.Toml.Item
import RouterConfig.Toml.Scalar
import RouterConfig.Unicode.Category
import RouterConfig.Unicode.Folding
import RouterConfig.Unicode.Script
import RouterConfig.Unicode.Visible
import RouterConfig.Unicode.Word
import RouterConfig.Yaml.Cursor
import RouterConfig.Yaml.Decoder
import RouterConfig.Yaml.Layout
import RouterConfig.Yaml.Meaning
import RouterConfig.Yaml.Node
import RouterConfig.Yaml.Scalar
import RouterConfig.Yaml.Tag
import RouterConfig.Yaml.Token
