import RecordRules.Calendar.Date
import RecordRules.Calendar.Moment
import RecordRules.Calendar.Reading
import RecordRules.Calendar.Written
import RecordRules.Declaration.Basic
import RecordRules.Declaration.Document
import RecordRules.Declaration.Notation
import RecordRules.Engine.Basic
import RecordRules.Engine.Batch
import RecordRules.Fault
import RecordRules.Journal.Activity
import RecordRules.Journal.Note
import RecordRules.Journal.Operation
import RecordRules.Journal.Writer
import RecordRules.Model.Checked
import RecordRules.Named
import RecordRules.Number.Double
import RecordRules.Number.Numeral
import RecordRules.Number.Shortest
import RecordRules.Pattern.Basic
import RecordRules.Pattern.Flaw
import RecordRules.Pattern.Reading
import RecordRules.Pattern.Search
import RecordRules.Pattern.Syntax
import RecordRules.Proofs.Evaluation
import RecordRules.Proofs.Model.Checked
import RecordRules.Proofs.Registry.Block
import RecordRules.Proofs.Registry.Setting
import RecordRules.Proofs.Registry.Suspension
import RecordRules.Proofs.Rule.Filing
import RecordRules.Proofs.Value.Keys
import RecordRules.Proofs.Value.Lookup
import RecordRules.Record.Attribute
import RecordRules.Record.Basic
import RecordRules.Record.Entry
import RecordRules.Record.Outcome
import RecordRules.Record.Subject
import RecordRules.Registry.Basic
import RecordRules.Registry.Block
import RecordRules.Registry.Workspace
import RecordRules.Rule.Bound
import RecordRules.Rule.Comparator
import RecordRules.Rule.Condition
import RecordRules.Rule.DateRule
import RecordRules.Rule.Kind
import RecordRules.Rule.Message
import RecordRules.Rule.MustBe
import RecordRules.Rule.Operand
import RecordRules.Rule.Run
import RecordRules.Text.Abbreviated
import RecordRules.Text.Alphabetic
import RecordRules.Text.Blank
import RecordRules.Text.CaseMap
import RecordRules.Text.Cased
import RecordRules.Text.Category
import RecordRules.Text.CharSet
import RecordRules.Text.Encoding
import RecordRules.Text.Identifier
import RecordRules.Text.Lower
import RecordRules.Text.Numeric
import RecordRules.Text.Printable
import RecordRules.Text.Quoted
import RecordRules.Text.Template
import RecordRules.Text.Upper
import RecordRules.Trial
import RecordRules.Value.Arguments
import RecordRules.Value.Arithmetic
import RecordRules.Value.Basic
import RecordRules.Value.Collection
import RecordRules.Value.Equality
import RecordRules.Value.Mapping
import RecordRules.Value.Mention
import RecordRules.Value.Order
import RecordRules.Value.Question
import RecordRules.Value.Sorting
import RecordRules.Value.Text
import RecordRules.Yaml.Document
import RecordRules.Yaml.Node
import RecordRules.Yaml.Scalar
import RecordRules.Yaml.Token
import RecordRules.Proofs.Record.Filing
import RecordRules.Proofs.Rule.Reading
import RecordRules.Proofs.Engine.Account
import RecordRules.Proofs.Rule.Checks
import RecordRules.Proofs.Rule.Verdict
import RecordRules.Proofs.Rule.Message
import RecordRules.Proofs.Rule.Composition
import RecordRules.Proofs.Engine.Disabling
import RecordRules.Proofs.Engine.Agreement
import RecordRules.Proofs.Engine.Concatenation
import RecordRules.Proofs.Declaration.Loading
import RecordRules.Proofs.Engine.Telling
import RecordRules.Proofs.Engine.Summary
import RecordRules.Proofs.Rule.Placing
import RecordRules.Proofs.Engine.Noticing
import RecordRules.Proofs.Value.Plain
import RecordRules.Proofs.Declaration.Notation
import RecordRules.Proofs.Declaration.Calls
import RecordRules.Proofs.Declaration.OptionFaults
import RecordRules.Proofs.Yaml.Denoted
import RecordRules.Proofs.Declaration.Faults
import RecordRules.Proofs.Engine.Repetition
import RecordRules.Proofs.Rule.Notes
import RecordRules.Proofs.Value.Question
import RecordRules.Proofs.Rule.Changes
import RecordRules.Proofs.Engine.Batch
import RecordRules.Proofs.Rule.SingleEntry
import RecordRules.Proofs.Calendar.Ordinal
import RecordRules.Proofs.Rule.Bound
import RecordRules.Proofs.Rule.WholeDays
import RecordRules.Proofs.Rule.Report
import RecordRules.Proofs.Rule.Directives
import RecordRules.Proofs.Rule.Window
import RecordRules.Proofs.Rule.OneBound
import RecordRules.Proofs.Rule.Interruption
import RecordRules.Proofs.Rule.DateVerdict
import RecordRules.Proofs.Calendar.Range
import RecordRules.Proofs.Rule.Present
import RecordRules.Proofs.Value.Sameness
import RecordRules.Proofs.Rule.Judgement
import RecordRules.Proofs.Rule.Membership
import RecordRules.Proofs.Calendar.Written
import RecordRules.Proofs.Rule.Spelling
import RecordRules.Proofs.Value.Leaves
import RecordRules.Proofs.Rule.Collections
import RecordRules.Proofs.Value.WellFormed
import RecordRules.Proofs.Value.Ranking
import RecordRules.Proofs.Rule.Comparisons
import RecordRules.Proofs.Rule.ComparisonVerdict
import RecordRules.Proofs.Engine.MovedEntries
import RecordRules.Proofs.Engine.NullLevel
import RecordRules.Proofs.Declaration.Settled
import RecordRules.Proofs.Declaration.GeneratedNames
import RecordRules.Proofs.Registry.Log
import RecordRules.Proofs.Registry.Document
import RecordRules.Proofs.Rule.Escapes
