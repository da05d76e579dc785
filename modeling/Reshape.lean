import Reshape.Calendar.Date
import Reshape.Calendar.Layout
import Reshape.Calendar.Reader
import Reshape.Calendar.Stamp
import Reshape.CommandLine.Arguments
import Reshape.CommandLine.Help
import Reshape.CommandLine.Outcome
import Reshape.Decimal.Basic
import Reshape.Decimal.Digits
import Reshape.Decimal.Layout
import Reshape.Decimal.Numeral
import Reshape.Decimal.Shortest
import Reshape.Document.Basic
import Reshape.Document.Coercion
import Reshape.Document.Equality
import Reshape.Document.Position
import Reshape.Document.Printer
import Reshape.Document.Reader
import Reshape.Double.Arithmetic
import Reshape.Double.Basic
import Reshape.Double.Rounding
import Reshape.Double.Whole
import Reshape.Evaluation.Attempt
import Reshape.Evaluation.Frame
import Reshape.Expression.Basic
import Reshape.Expression.Printer
import Reshape.Expression.Reader
import Reshape.Expression.Scan
import Reshape.Main
import Reshape.Number
import Reshape.Operation.Basic
import Reshape.Operation.Choices
import Reshape.Operation.Dates
import Reshape.Operation.Numbers
import Reshape.Operation.Sequences
import Reshape.Operation.Standard
import Reshape.Operation.Words
import Reshape.Pattern.Basic
import Reshape.Pattern.CharSetReader
import Reshape.Pattern.Reader
import Reshape.Schema.Basic
import Reshape.Schema.Check
import Reshape.Schema.Report
import Reshape.Schema.Violation
import Reshape.Selector.Basic
import Reshape.Selector.Reader
import Reshape.Selector.Walk
import Reshape.Spec.Basic
import Reshape.Spec.Compile
import Reshape.Spec.Conformance
import Reshape.Spec.Location
import Reshape.Spec.Output
import Reshape.Spec.Picking
import Reshape.Spec.Source
import Reshape.Text.Blank
import Reshape.Text.Case
import Reshape.Text.Case.Context
import Reshape.Text.Case.Mapping
import Reshape.Text.Letter
import Reshape.Text.Mark
import Reshape.Text.Name
import Reshape.Text.Numeric
import Reshape.Text.Place
import Reshape.Text.Range
import Reshape.Text.Search
import Reshape.Transform.Application
import Reshape.Transform.Chain
import Reshape.Transform.Config
import Reshape.Transform.Failure
import Reshape.Transform.Run
import Reshape.Transform.Transformer
import Reshape.Uri.Address
import Reshape.Uri.Basic
import Reshape.Uri.Host
import Reshape.Proofs.Results
import Reshape.Proofs.Agreement
import Reshape.Proofs.Logging
import Reshape.Proofs.Strictness
import Reshape.Proofs.Budget
import Reshape.Proofs.Nesting
import Reshape.Proofs.Revisiting
import Reshape.Proofs.Interpreter
import Reshape.Proofs.Compilation
import Reshape.Proofs.Faults
import Reshape.Proofs.Conforming
import Reshape.Proofs.DepthLimit
import Reshape.Proofs.RootDocument
import Reshape.Proofs.StartTemplate
import Reshape.Proofs.Warnings
import Reshape.Proofs.Trimming
import Reshape.Proofs.Grammar
import Reshape.Proofs.Splitting
import Reshape.Proofs.Numerals
import Reshape.Proofs.Words
import Reshape.Proofs.Terms
import Reshape.Proofs.Accepting
import Reshape.Proofs.NearestDouble
import Reshape.Proofs.ShortestDecimal
import Reshape.Proofs.Layouts
import Reshape.Proofs.Printing
import Reshape.Proofs.FunctionNames
import Reshape.Proofs.Reachability
import Reshape.Proofs.Attempts
import Reshape.Proofs.Locality
import Reshape.Proofs.EmptySource
import Reshape.Proofs.SelectorGrammar
import Reshape.Proofs.SelectorText
import Reshape.Proofs.MetRules
import Reshape.Proofs.Reporting
import Reshape.Proofs.KeywordGroups
import Reshape.Proofs.GroupFindings
import Reshape.Proofs.ExtraEntries
import Reshape.Proofs.Pipes
import Reshape.Proofs.SortOrder
import Reshape.Proofs.DocumentText
import Reshape.Proofs.Sameness
import Reshape.Proofs.DuplicateItems
import Reshape.Proofs.StableSort
import Reshape.Proofs.Equivalence
import Reshape.Proofs.WholeDoubles
import Reshape.Proofs.RoundedEquality
import Reshape.Proofs.ShortNumbers
import Reshape.Proofs.FirstOccurrences
import Reshape.Proofs.Following
import Reshape.Proofs.Composition
import Reshape.Proofs.LongestPrefix
import Reshape.Proofs.OutputShape
import Reshape.Proofs.Declarations
import Reshape.Proofs.Respelling
import Reshape.Proofs.Picking
import Reshape.Proofs.Separators
import Reshape.Proofs.Traversals
import Reshape.Proofs.Days
import Reshape.Proofs.Moments
import Reshape.Proofs.DefaultDates
import Reshape.Proofs.Dispatches
import Reshape.Proofs.NodeIdentity
import Reshape.Proofs.Skipping
import Reshape.Proofs.Configurations
import Reshape.Proofs.Outcomes
