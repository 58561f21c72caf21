import HookRules.Number.Shortest
import HookRules.Number.Decimal
import HookRules.Text.Blank
import HookRules.Text.Letter
import HookRules.Text.Lower
import HookRules.Text.Fold
import HookRules.Json.Printer
import HookRules.Json.Reader
import HookRules.Condition.Parser
import HookRules.Text.Category
import HookRules.Text.Script
import HookRules.Text.Property
import HookRules.Glob
import HookRules.Regex.Property
import HookRules.Regex.Node
import HookRules.Regex.Reader
import HookRules.Regex.Replace
import HookRules.Json.Decode
import HookRules.FileTree
import HookRules.Event.Wire
import HookRules.Snapshot.Git
import HookRules.Snapshot.Project
import HookRules.Function.Registry
import HookRules.Condition.Compile
import HookRules.Template
import HookRules.Rule.Basic
import HookRules.Settings
import HookRules.Automation.Process
import HookRules.Output.Accumulator
import HookRules.Contribution.Run
import HookRules.Engine
import HookRules.Response.Build
import HookRules.RuleSet
import HookRules.Shell.Reader
import HookRules.Shell.Search
import HookRules.Shell.Test
import HookRules.Shell.Pattern
import HookRules.Shell.Integer
import HookRules.Shell.State
import HookRules.Shell.Fields
import HookRules.Shell.Standard
import HookRules.Shell.Runner
import HookRules.Main
import HookRules.Proofs.Contribution.Channels
import HookRules.Proofs.Pass.Course
import HookRules.Proofs.Pass.Writes
import HookRules.Proofs.Json.Fields
import HookRules.Proofs.Response.Wire
import HookRules.Proofs.Response.Refusal
import HookRules.Proofs.Selection.Order
import HookRules.Proofs.Condition.Grammar
import HookRules.Proofs.Condition.Soundness
import HookRules.Proofs.Condition.Completeness
import HookRules.Proofs.FileTree.Containment
import HookRules.Proofs.Contribution.Failure
import HookRules.Proofs.Pass.WithoutFailed
import HookRules.Proofs.Json.Overlay
import HookRules.Proofs.Pass.WholeInput
import HookRules.Proofs.Contribution.Changes
import HookRules.Proofs.Response.ChangedInput
import HookRules.Proofs.Pass.Insertion
import HookRules.Proofs.Condition.Height
import HookRules.Proofs.Json.Record
import HookRules.Proofs.Response.ReadBack
import HookRules.Proofs.Condition.Places
import HookRules.Proofs.Condition.Names
import HookRules.Proofs.Condition.Compilation
import HookRules.Proofs.Condition.Evaluation
import HookRules.Proofs.Selection.Trail
import HookRules.Proofs.Condition.Agreement
import HookRules.Proofs.Session.Isolation
import HookRules.Proofs.RuleSet.Extension
import HookRules.Proofs.RuleSet.History
import HookRules.Proofs.Number.Rounding
import HookRules.Proofs.Condition.Integers
import HookRules.Proofs.Condition.Equality
import HookRules.Proofs.Condition.Trichotomy
import HookRules.Proofs.Condition.Connectives
import HookRules.Proofs.Condition.Memory
import HookRules.Proofs.Condition.Spelling
import HookRules.Proofs.Condition.Placement
import HookRules.Proofs.Condition.Spacing
import HookRules.Proofs.Condition.Literals
import HookRules.Proofs.Condition.Paths
import HookRules.Proofs.Event.ReadBack
import HookRules.Proofs.Json.Normal
import HookRules.Proofs.Rule.EventNames
import HookRules.Proofs.Rule.ReadBack
import HookRules.Proofs.Selection.Moments
import HookRules.Proofs.Template.Scan
import HookRules.Proofs.Function.Answers
import HookRules.Proofs.Output.Writing
import HookRules.Proofs.Contribution.Directives
import HookRules.Proofs.Pass.Frame
import HookRules.Proofs.Text.Decoding
import HookRules.Proofs.Json.Numeral
import HookRules.Proofs.Json.Grammar
import HookRules.Proofs.Json.Completeness
import HookRules.Proofs.Json.Fractions
import HookRules.Proofs.Number.Reading
import HookRules.Proofs.Number.Shortest
import HookRules.Proofs.Json.PrintedNumber
import HookRules.Proofs.Json.Printing
import HookRules.Proofs.Contribution.Delivery
import HookRules.Proofs.FileTree.Lexical
import HookRules.Proofs.FileTree.NormalForm
import HookRules.Proofs.FileTree.Resolution
import HookRules.Proofs.Text.Apart
import HookRules.Proofs.Text.Cutting
import HookRules.Proofs.Snapshot.Views
import HookRules.Proofs.Automation.Names
import HookRules.Proofs.Automation.Registration
import HookRules.Proofs.Session.Documents
import HookRules.Proofs.Condition.Boundaries
import HookRules.Proofs.Contribution.Reasons
import HookRules.Proofs.Response.Explanation
