import QueryDesk.Text.Basic
import QueryDesk.Text.CaseMap
import QueryDesk.Text.CaseTable
import QueryDesk.Text.CharClass
import QueryDesk.Text.Edges
import QueryDesk.Text.Half
import QueryDesk.Text.PrintableTable
import QueryDesk.Text.Quoted
import QueryDesk.Text.WordTable
import QueryDesk.Number.Binary64
import QueryDesk.Number.Decimal
import QueryDesk.Number.Numeral
import QueryDesk.Number.Shortest
import QueryDesk.Calendar.Basic
import QueryDesk.Calendar.FreeForm
import QueryDesk.Calendar.Iso
import QueryDesk.Calendar.Pattern
import QueryDesk.Calendar.Timestamp
import QueryDesk.Calendar.Token
import QueryDesk.Value.Basic
import QueryDesk.Value.Coercion
import QueryDesk.Value.Equality
import QueryDesk.Value.Fault
import QueryDesk.Value.Order
import QueryDesk.Value.Text
import QueryDesk.Model.Checked
import QueryDesk.Model.Issue
import QueryDesk.Model.NameStyle
import QueryDesk.Model.Reading
import QueryDesk.Json.Fault
import QueryDesk.Json.Reader
import QueryDesk.Json.Scalar
import QueryDesk.Json.Writer
import QueryDesk.Failure
import QueryDesk.Sql.BindDocument
import QueryDesk.Sql.Clause
import QueryDesk.Sql.Comment
import QueryDesk.Sql.Grammar.Expression
import QueryDesk.Sql.Grammar.Lexeme
import QueryDesk.Sql.Grammar.Query
import QueryDesk.Sql.Grammar.Recognizer
import QueryDesk.Sql.Grammar.Statement
import QueryDesk.Sql.Operator
import QueryDesk.Sql.Placeholder
import QueryDesk.Sql.Simplify
import QueryDesk.Sql.Statement
import QueryDesk.Sql.Template
import QueryDesk.ResultSet.Basic
import QueryDesk.ResultSet.ColumnType
import QueryDesk.ResultSet.CompareKey
import QueryDesk.ResultSet.Diff
import QueryDesk.ResultSet.Frame
import QueryDesk.ResultSet.Mark
import QueryDesk.ResultSet.Reading
import QueryDesk.ResultSet.Session
import QueryDesk.ResultSet.Workspace
import QueryDesk.Rule.Condition
import QueryDesk.Rule.ConditionReading
import QueryDesk.Rule.Engine
import QueryDesk.Rule.Operator
import QueryDesk.Rule.TableRule
import QueryDesk.Rule.Validation
import QueryDesk.Schema.Basic
import QueryDesk.Schema.Merge
import QueryDesk.Schema.Query
import QueryDesk.Schema.Reading
import QueryDesk.Report.Console
import QueryDesk.Report.Document
import QueryDesk.Report.Kind
import QueryDesk.Load.Csv
import QueryDesk.Load.CsvCell
import QueryDesk.Load.CsvColumn
import QueryDesk.Load.CsvRecord
import QueryDesk.Load.DataFile
import QueryDesk.Load.Definition
import QueryDesk.Load.Records
import QueryDesk.Yaml.Cursor
import QueryDesk.Yaml.Node
import QueryDesk.Yaml.Reader
import QueryDesk.Yaml.Resolve
import QueryDesk.Yaml.ScalarText
import QueryDesk.Yaml.Token
import QueryDesk.Cli.Charset
import QueryDesk.Cli.Commands
import QueryDesk.Cli.Effect
import QueryDesk.Cli.Folder
import QueryDesk.Cli.Invocation
import QueryDesk.Cli.LogConfig
import QueryDesk.Cli.OptionTable
import QueryDesk.Cli.Program
import QueryDesk.Cli.Scan
import QueryDesk.Main
import QueryDesk.Proofs.Outcomes
import QueryDesk.Proofs.RowMarks
import QueryDesk.Proofs.Matching.KeyClass
import QueryDesk.Proofs.Comparison.Edits
import QueryDesk.Proofs.Comparison.Run
import QueryDesk.Proofs.Comparison.Cells
import QueryDesk.Proofs.Comparison.Outcome
import QueryDesk.Proofs.Matching.Partners
import QueryDesk.Proofs.Placeholder.Lines
import QueryDesk.Proofs.Placeholder.Layout
import QueryDesk.Proofs.Placeholder.Agreement
import QueryDesk.Rule.EngineSession
import QueryDesk.Proofs.RuleCheck.Steps
import QueryDesk.Proofs.RuleCheck.Verdict
import QueryDesk.Proofs.RuleCheck.Limits
import QueryDesk.Proofs.Comparison.EditScript
import QueryDesk.Proofs.Comparison.Symmetry
import QueryDesk.Proofs.Comparison.AllOrNothing
import QueryDesk.Proofs.RuleCheck.OwnMarks
import QueryDesk.Proofs.Session.Fresh
import QueryDesk.Proofs.Clause.Compiled
import QueryDesk.Proofs.Clause.Names
import QueryDesk.Proofs.Clause.Predicate
import QueryDesk.Proofs.Clause.Spelling
import QueryDesk.Proofs.Clause.Meaning
import QueryDesk.Proofs.Placeholder.Distinct
import QueryDesk.Proofs.Clause.Rendering
import QueryDesk.Proofs.Clause.Chain
import QueryDesk.Proofs.Clause.Numbering
import QueryDesk.Proofs.Session.History
import QueryDesk.Proofs.Session.MarkLog
import QueryDesk.Proofs.Placeholder.Positions
import QueryDesk.Proofs.Placeholder.Literals
import QueryDesk.Proofs.Placeholder.Backticks
import QueryDesk.Proofs.Placeholder.Enclosed
import QueryDesk.Proofs.Comment.LineEnds
import QueryDesk.Proofs.Comment.Pieces
import QueryDesk.Proofs.Placeholder.Residue
import QueryDesk.Proofs.Value.Conversion
import QueryDesk.Proofs.Clause.Shares
import QueryDesk.Proofs.Clause.Parentheses
import QueryDesk.Proofs.View.Layout
import QueryDesk.Proofs.View.QuotedNames
import QueryDesk.Proofs.View.EmptyGroups
import QueryDesk.Proofs.RuleEngine.Evaluation
import QueryDesk.Proofs.RuleEngine.Negation
import QueryDesk.Proofs.ConditionTree.Grammar
import QueryDesk.Proofs.Document.Reading
import QueryDesk.Proofs.Document.RoundTrip
import QueryDesk.Proofs.Document.ShownMarks
import QueryDesk.Proofs.RuleEngine.Registry
import QueryDesk.Proofs.Number.Range
import QueryDesk.Proofs.RuleCheck.Completion
import QueryDesk.Proofs.RuleEngine.RecordedFacts
import QueryDesk.Proofs.Matching.CompositeKey
import QueryDesk.Proofs.RuleCheck.Refusal
import QueryDesk.Proofs.RuleCheck.Reported
import QueryDesk.Proofs.Program.ReportedDiff
import QueryDesk.Proofs.Program.CleanEnd
import QueryDesk.Proofs.Schema.DefaultSchema
import QueryDesk.Proofs.Number.Exact
import QueryDesk.Proofs.Value.Binding
import QueryDesk.Proofs.Load.BlankCells
import QueryDesk.Proofs.Simplify.Balance
import QueryDesk.Proofs.Statement.Placeholders
import QueryDesk.Proofs.Schema.Learning
import QueryDesk.Proofs.Text.Parts
import QueryDesk.Proofs.Number.Written
import QueryDesk.Proofs.Clause.NumberLists
