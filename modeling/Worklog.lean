import Worklog.Bus.Basic
import Worklog.Bus.Delivery
import Worklog.Cache
import Worklog.Calendar.Date
import Worklog.Calendar.Moment
import Worklog.Calendar.Stamp
import Worklog.Command.Basic
import Worklog.Command.Help
import Worklog.Command.Misuse
import Worklog.Command.Options
import Worklog.Command.Pages
import Worklog.Command.Run
import Worklog.Console.Grid
import Worklog.Console.Handler
import Worklog.Console.Markup
import Worklog.Console.Page
import Worklog.Console.Pictograph
import Worklog.Console.Style
import Worklog.Console.Wrap
import Worklog.Criteria
import Worklog.Engine.Basic
import Worklog.Engine.Report
import Worklog.ErrorLog
import Worklog.Fault
import Worklog.Histogram
import Worklog.History.Basic
import Worklog.History.Saved
import Worklog.Index.Basic
import Worklog.Index.Postings
import Worklog.Index.Suggest
import Worklog.Json.Basic
import Worklog.Json.Label
import Worklog.Json.Printer
import Worklog.Json.Reader
import Worklog.Limit
import Worklog.Literal.Reading
import Worklog.Literal.Token
import Worklog.Metrics
import Worklog.Number.Amount
import Worklog.Number.Bound
import Worklog.Number.Figure
import Worklog.Number.Numeral
import Worklog.Number.Precision
import Worklog.Number.Quantity
import Worklog.Number.Rounding
import Worklog.Panel
import Worklog.Query.Basic
import Worklog.Query.Day
import Worklog.Query.Duration
import Worklog.Query.Normal
import Worklog.Query.Outline
import Worklog.Query.Reading
import Worklog.Query.Token
import Worklog.Query.Verdict
import Worklog.Record.Basic
import Worklog.Record.Document
import Worklog.Results
import Worklog.Score
import Worklog.Search.Basic
import Worklog.Search.Desk
import Worklog.Search.Plan
import Worklog.Session.Basic
import Worklog.Session.Notice
import Worklog.Session.Report
import Worklog.Session.Schedule
import Worklog.Session.Suggest
import Worklog.Session.Upkeep
import Worklog.Settings.Basic
import Worklog.Settings.Check
import Worklog.Settings.File
import Worklog.Settings.Path
import Worklog.Store
import Worklog.Table
import Worklog.Term
import Worklog.Text.Base64
import Worklog.Text.Basic
import Worklog.Text.Blank
import Worklog.Text.Cells
import Worklog.Text.Digit
import Worklog.Text.Grapheme
import Worklog.Text.Letter
import Worklog.Text.Line
import Worklog.Text.Lowercase
import Worklog.Text.Quoted
import Worklog.Text.Similar
import Worklog.Yaml.Cursor
import Worklog.Yaml.Kind
import Worklog.Yaml.Node
import Worklog.Yaml.Printer
import Worklog.Yaml.Scalar
import Worklog.Yaml.Tag
import Worklog.Yaml.Token
import Worklog.Yaml.Value
import Worklog.Main
import Worklog.Proofs.Table
import Worklog.Proofs.ErrorLog
import Worklog.Proofs.Fault
import Worklog.Proofs.Text.Order
import Worklog.Proofs.Text.Words
import Worklog.Proofs.Text.Lowercase
import Worklog.Proofs.Text.Casing
import Worklog.Proofs.Text.Origin
import Worklog.Proofs.Text.Strip
import Worklog.Proofs.Term
import Worklog.Proofs.Index.Filing
import Worklog.Proofs.Index.Postings
import Worklog.Proofs.Index.History
import Worklog.Proofs.Index.Roster
import Worklog.Proofs.Index.Find
import Worklog.Proofs.Index.Answers
import Worklog.Proofs.Index.Run
import Worklog.Proofs.Index.Flawed
import Worklog.Proofs.Index.Titles
import Worklog.Proofs.Limit
import Worklog.Proofs.Panel
import Worklog.Proofs.Store
import Worklog.Proofs.Criteria
import Worklog.Proofs.Query.Plain
import Worklog.Proofs.Query.Normal
import Worklog.Proofs.Query.Token
import Worklog.Proofs.Query.Scan
import Worklog.Proofs.Query.Collapse
import Worklog.Proofs.Query.Duration
import Worklog.Proofs.Query.Comparison
import Worklog.Proofs.Query.Tidy
import Worklog.Proofs.Query.Filter
import Worklog.Proofs.Query.Steady
import Worklog.Proofs.Query.Executed
import Worklog.Proofs.Query.Restriction
import Worklog.Proofs.Query.Shorthand
import Worklog.Proofs.Query.Contentless
import Worklog.Proofs.Query.Stray
import Worklog.Proofs.Query.Composed
import Worklog.Proofs.Query.Quoted
import Worklog.Proofs.Query.Idempotent
import Worklog.Proofs.Query.Layout
import Worklog.Proofs.Query.Named
import Worklog.Proofs.Query.DayFilter
import Worklog.Proofs.Query.Length
import Worklog.Proofs.Session.Upkeep
import Worklog.Proofs.Session.Run
import Worklog.Proofs.Session.Debounce
import Worklog.Proofs.Session.Shown
import Worklog.Proofs.Session.Desk
import Worklog.Proofs.Session.Failure
import Worklog.Proofs.Search.Ranking
import Worklog.Proofs.Search.Verdict
import Worklog.Proofs.Search.Asked
import Worklog.Proofs.Search.Paths
import Worklog.Proofs.Search.Restamped
import Worklog.Proofs.Search.Fresh
import Worklog.Proofs.Search.Shorthand
import Worklog.Proofs.Search.Contentless
import Worklog.Proofs.Search.Narrower
import Worklog.Proofs.Search.Days
import Worklog.Proofs.Search.Order
import Worklog.Proofs.Score
import Worklog.Proofs.Search.Sameness
import Worklog.Proofs.Search.Total
import Worklog.Proofs.Bus.Delivery
import Worklog.Proofs.Bus.Heard
import Worklog.Proofs.Bus.Subscriptions
import Worklog.Proofs.Bus.Chronicle
import Worklog.Proofs.Bus.Run
import Worklog.Proofs.Cache.Row
import Worklog.Proofs.Cache.Shelf
import Worklog.Proofs.Cache.Run
import Worklog.Proofs.Engine.Synced
import Worklog.Proofs.Engine.Feed
import Worklog.Proofs.Engine.Fresh
import Worklog.Proofs.Engine.Counts
import Worklog.Proofs.Text.Digits
import Worklog.Proofs.Calendar.Date
import Worklog.Proofs.Calendar.Stamp
import Worklog.Proofs.Calendar.Reach
import Worklog.Proofs.Calendar.Months
import Worklog.Proofs.Number.Double
import Worklog.Proofs.Number.Shortest
import Worklog.Proofs.Json.Strings
import Worklog.Proofs.Json.Numbers
import Worklog.Proofs.Json.RoundTrip
import Worklog.Proofs.Panel.Document
import Worklog.Proofs.History.Document
import Worklog.Proofs.History.Run
import Worklog.Proofs.History.Latest
import Worklog.Proofs.Criteria.Fault
import Worklog.Proofs.Store.Reads
import Worklog.Proofs.Number.Exact
import Worklog.Proofs.Histogram
import Worklog.Proofs.Metrics
import Worklog.Proofs.Settings.Accepted
import Worklog.Proofs.Settings.Path
import Worklog.Proofs.Settings.Document
import Worklog.Proofs.Index.Names
import Worklog.Proofs.Session.Suggest
