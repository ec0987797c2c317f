import FederatedSearch.Action
import FederatedSearch.Calendar.Date
import FederatedSearch.Calendar.Instant
import FederatedSearch.Calendar.Reading
import FederatedSearch.Calendar.Span
import FederatedSearch.Catalog
import FederatedSearch.CommandLine.Arguments
import FederatedSearch.CommandLine.Command
import FederatedSearch.CommandLine.Format
import FederatedSearch.CommandLine.Maintenance
import FederatedSearch.CommandLine.Output
import FederatedSearch.CommandLine.Run
import FederatedSearch.CommandLine.Search
import FederatedSearch.CommandLine.Settings
import FederatedSearch.CommandLine.Usage
import FederatedSearch.Configuration.Basic
import FederatedSearch.Configuration.Directories
import FederatedSearch.Configuration.Environment
import FederatedSearch.Configuration.Loading
import FederatedSearch.Engine.Basic
import FederatedSearch.Engine.Execution
import FederatedSearch.Engine.Page
import FederatedSearch.Engine.Search
import FederatedSearch.Engine.Service
import FederatedSearch.Engine.Start
import FederatedSearch.Exchange.Configuration
import FederatedSearch.Exchange.Dataset
import FederatedSearch.Exchange.Expr
import FederatedSearch.Exchange.Options
import FederatedSearch.Exchange.Page
import FederatedSearch.Exchange.Row
import FederatedSearch.Failure
import FederatedSearch.FileState
import FederatedSearch.Index.Demo
import FederatedSearch.Index.Execution
import FederatedSearch.Index.Fetch
import FederatedSearch.Index.Highlight
import FederatedSearch.Index.Matching
import FederatedSearch.Index.Record
import FederatedSearch.Index.Server
import FederatedSearch.Index.Sorting
import FederatedSearch.Index.Word
import FederatedSearch.Json.Basic
import FederatedSearch.Json.Decode
import FederatedSearch.Json.Numeral
import FederatedSearch.Json.Printer
import FederatedSearch.Json.Reader
import FederatedSearch.Main
import FederatedSearch.Number.Binary64
import FederatedSearch.Number.Decimal
import FederatedSearch.Number.Literal
import FederatedSearch.Proofs.Action
import FederatedSearch.Proofs.Calendar.Days
import FederatedSearch.Proofs.Calendar.Instant
import FederatedSearch.Proofs.Calendar.Reading
import FederatedSearch.Proofs.Calendar.Shifting
import FederatedSearch.Proofs.CommandLine.Pages
import FederatedSearch.Proofs.Engine.Agreement
import FederatedSearch.Proofs.Engine.Aside
import FederatedSearch.Proofs.Engine.Blocking
import FederatedSearch.Proofs.Engine.Commuting
import FederatedSearch.Proofs.Engine.Deciding
import FederatedSearch.Proofs.Engine.Excerpt
import FederatedSearch.Proofs.Engine.Executing
import FederatedSearch.Proofs.Engine.Hosting
import FederatedSearch.Proofs.Engine.Isolation
import FederatedSearch.Proofs.Engine.Locality
import FederatedSearch.Proofs.Engine.Multiplicity
import FederatedSearch.Proofs.Engine.Narrowing
import FederatedSearch.Proofs.Engine.Outage
import FederatedSearch.Proofs.Engine.Overflow
import FederatedSearch.Proofs.Engine.Ownership
import FederatedSearch.Proofs.Engine.Paging
import FederatedSearch.Proofs.Engine.Parallel
import FederatedSearch.Proofs.Engine.Recalling
import FederatedSearch.Proofs.Engine.Recorded
import FederatedSearch.Proofs.Engine.Refusal
import FederatedSearch.Proofs.Engine.Removal
import FederatedSearch.Proofs.Engine.Repeating
import FederatedSearch.Proofs.Engine.Returning
import FederatedSearch.Proofs.Engine.Reuse
import FederatedSearch.Proofs.Engine.Standing
import FederatedSearch.Proofs.Engine.Stray
import FederatedSearch.Proofs.Engine.Tending
import FederatedSearch.Proofs.Engine.Tracing
import FederatedSearch.Proofs.Engine.Transparency
import FederatedSearch.Proofs.Engine.Window
import FederatedSearch.Proofs.Index.Business
import FederatedSearch.Proofs.Index.Confinement
import FederatedSearch.Proofs.Index.Dates
import FederatedSearch.Proofs.Index.Expansion
import FederatedSearch.Proofs.Index.Filters
import FederatedSearch.Proofs.Index.Highlight
import FederatedSearch.Proofs.Index.Removal
import FederatedSearch.Proofs.Index.Sorting
import FederatedSearch.Proofs.Index.Stemming
import FederatedSearch.Proofs.Index.Value
import FederatedSearch.Proofs.Json.Numeral
import FederatedSearch.Proofs.Json.Reading
import FederatedSearch.Proofs.Json.Scalar
import FederatedSearch.Proofs.Number.Order
import FederatedSearch.Proofs.Query.Derivation
import FederatedSearch.Proofs.Query.Faults
import FederatedSearch.Proofs.Query.Layout
import FederatedSearch.Proofs.Query.Naming
import FederatedSearch.Proofs.Query.Nesting
import FederatedSearch.Proofs.Query.Panel
import FederatedSearch.Proofs.Query.Planning
import FederatedSearch.Proofs.Query.Proposing
import FederatedSearch.Proofs.Query.Rendering
import FederatedSearch.Proofs.Query.Shape
import FederatedSearch.Proofs.Query.Vocabulary
import FederatedSearch.Proofs.Query.Written
import FederatedSearch.Proofs.Session.Clearing
import FederatedSearch.Proofs.Session.Filing
import FederatedSearch.Proofs.Session.Operating
import FederatedSearch.Proofs.Session.Sweeping
import FederatedSearch.Proofs.Text.Order
import FederatedSearch.Query.Clause
import FederatedSearch.Query.Comparison
import FederatedSearch.Query.Expansion
import FederatedSearch.Query.Expr
import FederatedSearch.Query.Normal
import FederatedSearch.Query.Parser
import FederatedSearch.Query.Plan
import FederatedSearch.Query.Render
import FederatedSearch.Query.Scan
import FederatedSearch.Query.Suggestion
import FederatedSearch.Query.SyntaxError
import FederatedSearch.Query.Token
import FederatedSearch.SearchOptions
import FederatedSearch.Session.Cache
import FederatedSearch.Session.Row
import FederatedSearch.Session.Store
import FederatedSearch.StatusFilter
import FederatedSearch.Table
import FederatedSearch.Text.Alphanumeric
import FederatedSearch.Text.Blank
import FederatedSearch.Text.Bytes
import FederatedSearch.Text.Case
import FederatedSearch.Text.CaseTable
import FederatedSearch.Text.Escaped
import FederatedSearch.Text.Order
import FederatedSearch.Text.Pieces
import FederatedSearch.Text.Printable
import FederatedSearch.Thesaurus
import FederatedSearch.Toml.Quoted
import FederatedSearch.Toml.Reader
import FederatedSearch.Toml.Scalar
import FederatedSearch.Toml.Table
import FederatedSearch.Wording
