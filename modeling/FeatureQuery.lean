import FeatureQuery.About
import FeatureQuery.Cache
import FeatureQuery.Cache.Key
import FeatureQuery.Caller
import FeatureQuery.CallerField
import FeatureQuery.Combination
import FeatureQuery.CommandLine.Arguments
import FeatureQuery.CommandLine.Run
import FeatureQuery.Config
import FeatureQuery.Engine
import FeatureQuery.Engine.Reports
import FeatureQuery.Enumeration
import FeatureQuery.Error
import FeatureQuery.Field
import FeatureQuery.Filter
import FeatureQuery.IdSet
import FeatureQuery.Json.Basic
import FeatureQuery.Json.Fields
import FeatureQuery.Json.Reader
import FeatureQuery.Json.Text
import FeatureQuery.Literal
import FeatureQuery.Literal.Reader
import FeatureQuery.Log.Directive
import FeatureQuery.Log.Level
import FeatureQuery.Log.Policy
import FeatureQuery.Log.Report
import FeatureQuery.Lookup
import FeatureQuery.Main
import FeatureQuery.Number.Double
import FeatureQuery.Number.Double.Shortest
import FeatureQuery.Number.Double.Text
import FeatureQuery.Number.Integer
import FeatureQuery.Operator
import FeatureQuery.Page
import FeatureQuery.Permissions
import FeatureQuery.Plan
import FeatureQuery.Proofs.Answers.Alternatives
import FeatureQuery.Proofs.Answers.CallerField
import FeatureQuery.Proofs.Answers.Field
import FeatureQuery.Proofs.Answers.Grants
import FeatureQuery.Proofs.Answers.Integers
import FeatureQuery.Proofs.Answers.Issued
import FeatureQuery.Proofs.Answers.Lists
import FeatureQuery.Proofs.Answers.Negation
import FeatureQuery.Proofs.Answers.Offline
import FeatureQuery.Proofs.Answers.Query
import FeatureQuery.Proofs.Answers.Quoted
import FeatureQuery.Proofs.Answers.Selected
import FeatureQuery.Proofs.Cache.Eligibility
import FeatureQuery.Proofs.Cache.Histories
import FeatureQuery.Proofs.Cache.Keys
import FeatureQuery.Proofs.Cache.Outages
import FeatureQuery.Proofs.Cache.Prefixes
import FeatureQuery.Proofs.Cache.Requests
import FeatureQuery.Proofs.Cache.Sessions
import FeatureQuery.Proofs.Failures
import FeatureQuery.Proofs.HiddenFeatures
import FeatureQuery.Proofs.Joining
import FeatureQuery.Proofs.Json.Numbers
import FeatureQuery.Proofs.Json.Objects
import FeatureQuery.Proofs.Json.Pages
import FeatureQuery.Proofs.Json.Records
import FeatureQuery.Proofs.Json.RoundTrip
import FeatureQuery.Proofs.Json.Unambiguous
import FeatureQuery.Proofs.Literal.Collapsing
import FeatureQuery.Proofs.Literal.Lists
import FeatureQuery.Proofs.Literal.Reading
import FeatureQuery.Proofs.Literal.Relative
import FeatureQuery.Proofs.Literal.Shifts
import FeatureQuery.Proofs.Literal.Written
import FeatureQuery.Proofs.Meaning
import FeatureQuery.Proofs.Mismatches
import FeatureQuery.Proofs.Number.Decimal
import FeatureQuery.Proofs.Number.Rounding
import FeatureQuery.Proofs.Offline
import FeatureQuery.Proofs.Page
import FeatureQuery.Proofs.Ranking
import FeatureQuery.Proofs.Ranking.Positions
import FeatureQuery.Proofs.Record.Kinds
import FeatureQuery.Proofs.SortKeys
import FeatureQuery.Proofs.Store.Comparisons
import FeatureQuery.Proofs.Store.Insertions
import FeatureQuery.Proofs.Store.Keeping
import FeatureQuery.Proofs.Store.Reachable
import FeatureQuery.Proofs.Store.Selection
import FeatureQuery.Proofs.Term.Blanks
import FeatureQuery.Proofs.Term.Collapsing
import FeatureQuery.Proofs.Term.Grammar
import FeatureQuery.Proofs.Term.Printing
import FeatureQuery.Proofs.Term.Words
import FeatureQuery.Proofs.Text.Collapsing
import FeatureQuery.Proofs.Text.Digits
import FeatureQuery.Proofs.Text.Splitting
import FeatureQuery.Proofs.Text.Trimming
import FeatureQuery.Proofs.Text.Words
import FeatureQuery.Proofs.Time.Calendar
import FeatureQuery.Proofs.Time.Elapsed
import FeatureQuery.Proofs.Time.Rfc3339
import FeatureQuery.Proofs.Warnings
import FeatureQuery.Proofs.Windows
import FeatureQuery.Property
import FeatureQuery.Query
import FeatureQuery.Ranking
import FeatureQuery.Record.Basic
import FeatureQuery.Record.Feature
import FeatureQuery.Record.Gate
import FeatureQuery.Record.Stage
import FeatureQuery.Record.Star
import FeatureQuery.Request
import FeatureQuery.Resolution
import FeatureQuery.Session
import FeatureQuery.SortSpec
import FeatureQuery.Store
import FeatureQuery.Store.Selection
import FeatureQuery.Store.TextIndex
import FeatureQuery.Term
import FeatureQuery.Term.Lexer
import FeatureQuery.Text.Alphanumeric
import FeatureQuery.Text.Blank
import FeatureQuery.Text.Bytes
import FeatureQuery.Text.Cased
import FeatureQuery.Text.Digit
import FeatureQuery.Text.Lowercase
import FeatureQuery.Text.Printable
import FeatureQuery.Text.Quoted
import FeatureQuery.Text.Range
import FeatureQuery.Text.Split
import FeatureQuery.Time.Calendar
import FeatureQuery.Time.Instant
import FeatureQuery.Time.Rfc3339
import FeatureQuery.Time.Span
import FeatureQuery.Value
import FeatureQuery.Visibility
import FeatureQuery.Warning
import FeatureQuery.Window
