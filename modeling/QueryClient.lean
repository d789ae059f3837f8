import QueryClient.Calendar
import QueryClient.Cli.Arguments
import QueryClient.Cli.Command
import QueryClient.Cli.Help
import QueryClient.Cli.Report
import QueryClient.Cli.Run
import QueryClient.Config.Catalog
import QueryClient.Config.Coercion
import QueryClient.Config.Command
import QueryClient.Config.EnvironmentFile
import QueryClient.Config.Profile
import QueryClient.Config.Record
import QueryClient.Config.Settings
import QueryClient.Connection.Basic
import QueryClient.Connection.Desk
import QueryClient.Connection.Execution
import QueryClient.Connection.Opening
import QueryClient.Connection.Requests
import QueryClient.Connection.Reuse
import QueryClient.Connection.Terminal
import QueryClient.Console.Emoji.Names
import QueryClient.Console.Emoji.Replace
import QueryClient.Console.Emoji.SkinTones
import QueryClient.Console.Layout
import QueryClient.Console.Markup
import QueryClient.Console.Screen
import QueryClient.Console.Table
import QueryClient.Console.Width
import QueryClient.Entries
import QueryClient.Fault
import QueryClient.Files.ExternalTable
import QueryClient.Files.ResultFile
import QueryClient.Files.Store
import QueryClient.Gzip.Checksum
import QueryClient.Gzip.Compressor
import QueryClient.Gzip.Content
import QueryClient.Http.ChunkReader
import QueryClient.Http.Command
import QueryClient.Http.Disruption
import QueryClient.Http.QueryString
import QueryClient.Http.Queue
import QueryClient.Http.Request
import QueryClient.Http.Response
import QueryClient.Http.ResultSink
import QueryClient.Http.Session
import QueryClient.Http.Stream
import QueryClient.Http.Upload
import QueryClient.Json.Complaint
import QueryClient.Json.Document
import QueryClient.Json.Reader
import QueryClient.Json.Writer
import QueryClient.Main
import QueryClient.Number.Binary64
import QueryClient.Number.Decimal
import QueryClient.Number.FloatText
import QueryClient.Number.Shortest
import QueryClient.Parameter
import QueryClient.Proofs.Config.Parameters
import QueryClient.Proofs.Connection.Carrier
import QueryClient.Proofs.Connection.Desk
import QueryClient.Proofs.Connection.Expansion
import QueryClient.Proofs.Connection.ResultFile
import QueryClient.Proofs.Connection.Reuse
import QueryClient.Proofs.Connection.Running
import QueryClient.Proofs.Connection.Sending
import QueryClient.Proofs.Connection.StreamClosing
import QueryClient.Proofs.Connection.WireParameters
import QueryClient.Proofs.Files.OpenFile
import QueryClient.Proofs.Gzip.Member
import QueryClient.Proofs.Http.Completion
import QueryClient.Proofs.Http.PendingCount
import QueryClient.Proofs.Http.QueryString
import QueryClient.Proofs.Http.ResultSink
import QueryClient.Proofs.Http.Workers
import QueryClient.Proofs.Json.Complaints
import QueryClient.Proofs.Json.Extension
import QueryClient.Proofs.Json.Notation
import QueryClient.Proofs.Json.Numerals
import QueryClient.Proofs.Json.Reading
import QueryClient.Proofs.Json.Strings
import QueryClient.Proofs.Query.Additions
import QueryClient.Proofs.Query.Aliases
import QueryClient.Proofs.Query.Assembly
import QueryClient.Proofs.Query.Building
import QueryClient.Proofs.Query.Chain
import QueryClient.Proofs.Query.ClauseOrder
import QueryClient.Proofs.Query.Clone
import QueryClient.Proofs.Query.ComparedData
import QueryClient.Proofs.Query.CompileAndBind
import QueryClient.Proofs.Query.Components
import QueryClient.Proofs.Query.Confinement
import QueryClient.Proofs.Query.Copies
import QueryClient.Proofs.Query.Coverage
import QueryClient.Proofs.Query.FailedClause
import QueryClient.Proofs.Query.Fragments
import QueryClient.Proofs.Query.GroupCallbacks
import QueryClient.Proofs.Query.Groups
import QueryClient.Proofs.Query.Identifier
import QueryClient.Proofs.Query.Independence
import QueryClient.Proofs.Query.Inlining
import QueryClient.Proofs.Query.Invariant
import QueryClient.Proofs.Query.KeptReferences
import QueryClient.Proofs.Query.NameRecursion
import QueryClient.Proofs.Query.NestedGroup
import QueryClient.Proofs.Query.Objects
import QueryClient.Proofs.Query.ObjectSteps
import QueryClient.Proofs.Query.OnAndWhere
import QueryClient.Proofs.Query.QualifiedColumns
import QueryClient.Proofs.Query.Readings
import QueryClient.Proofs.Query.References
import QueryClient.Proofs.Query.Rules
import QueryClient.Proofs.Query.Segments
import QueryClient.Proofs.Query.SharedDepth
import QueryClient.Proofs.Query.Visible
import QueryClient.Proofs.Query.WellFormed
import QueryClient.Proofs.Result.Rows
import QueryClient.Proofs.Sql.Alignment
import QueryClient.Proofs.Sql.BoundData
import QueryClient.Proofs.Sql.BoundFormat
import QueryClient.Proofs.Sql.Comments
import QueryClient.Proofs.Sql.Filling
import QueryClient.Proofs.Sql.FormatSent
import QueryClient.Proofs.Sql.Inert
import QueryClient.Proofs.Sql.LiteralWords
import QueryClient.Proofs.Sql.Place
import QueryClient.Proofs.Sql.Region
import QueryClient.Proofs.Sql.Resolved
import QueryClient.Proofs.Sql.Spans
import QueryClient.Proofs.Sql.Trimming
import QueryClient.Proofs.Text.Lines
import QueryClient.Proofs.Text.Padding
import QueryClient.Proofs.Text.Utf8
import QueryClient.Query.Basic
import QueryClient.Query.Bindings
import QueryClient.Query.Build
import QueryClient.Query.Builders
import QueryClient.Query.Call
import QueryClient.Query.Clause
import QueryClient.Query.Compile
import QueryClient.Query.Filter
import QueryClient.Query.Identifier
import QueryClient.Query.Outcome
import QueryClient.Query.Resolve
import QueryClient.Query.Terminal
import QueryClient.Query.Workspace
import QueryClient.Result.Access
import QueryClient.Result.Basic
import QueryClient.Result.Failure
import QueryClient.Result.Summary
import QueryClient.Sql.Bind
import QueryClient.Sql.Literal
import QueryClient.Sql.OutputFormat
import QueryClient.Sql.Placeholder
import QueryClient.Sql.Statement
import QueryClient.Text.Blank
import QueryClient.Text.Case
import QueryClient.Text.Printable
import QueryClient.Text.Quoted
import QueryClient.Text.Ranges
import QueryClient.Text.Split
import QueryClient.Text.Utf8
import QueryClient.Text.Word
import QueryClient.Value
import QueryClient.Value.Display
import QueryClient.Value.Equality
import QueryClient.Value.Whole
import QueryClient.Work
import QueryClient.Proofs.Sql.LiteralReading
import QueryClient.Proofs.Sql.NamedReferences
import QueryClient.Proofs.Sql.NamedPlaceholders
import QueryClient.Proofs.Connection.InsertedRows
import QueryClient.Proofs.Sql.FormatClause
import QueryClient.Proofs.Sql.LexicalGrammar
import QueryClient.Proofs.Query.Rendering
import QueryClient.Proofs.Query.Ending
import QueryClient.Proofs.Query.Acyclic
import QueryClient.Proofs.Connection.BindingCount
import QueryClient.Proofs.Json.Nesting
import QueryClient.Proofs.Sql.History
import QueryClient.Proofs.Result.Summary
import QueryClient.Proofs.Http.UploadedData
import QueryClient.Proofs.Query.SelectLists
import QueryClient.Proofs.Result.Content
import QueryClient.Proofs.Result.Questions
import QueryClient.Proofs.Result.Counts
import QueryClient.Proofs.Files.AttachedTables
import QueryClient.Proofs.Connection.DeclaredTables
