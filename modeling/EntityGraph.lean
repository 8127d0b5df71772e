import EntityGraph.Caller
import EntityGraph.Cli.Arguments
import EntityGraph.Cli.Options
import EntityGraph.Cli.Run
import EntityGraph.Compile.EdgeProperties
import EntityGraph.Compile.Integrity
import EntityGraph.Compile.Read
import EntityGraph.Compile.Scope
import EntityGraph.Compile.Write
import EntityGraph.Config.Basic
import EntityGraph.Config.Loading
import EntityGraph.Config.Reading
import EntityGraph.Cypher.Builder
import EntityGraph.Cypher.Clause
import EntityGraph.Cypher.Statement
import EntityGraph.Cypher.Text
import EntityGraph.Decimal.Positional
import EntityGraph.Decimal.Reading
import EntityGraph.Decimal.Shortest
import EntityGraph.Dict
import EntityGraph.Document.Assembly
import EntityGraph.Document.Basic
import EntityGraph.Document.Codec
import EntityGraph.Document.Failure
import EntityGraph.Document.Included
import EntityGraph.Document.Related
import EntityGraph.Document.Serializer
import EntityGraph.Error
import EntityGraph.Error.Cause
import EntityGraph.Files
import EntityGraph.Json.Decode
import EntityGraph.Json.Parser
import EntityGraph.Json.Part
import EntityGraph.Json.Printer
import EntityGraph.Json.Value
import EntityGraph.Main
import EntityGraph.Paging.Codec
import EntityGraph.Paging.Cursor
import EntityGraph.Paging.Links
import EntityGraph.Paging.Page
import EntityGraph.Paging.Window
import EntityGraph.Repository.Basic
import EntityGraph.Repository.Mapper
import EntityGraph.Schema.Codec
import EntityGraph.Schema.Ddl
import EntityGraph.Schema.Descriptor
import EntityGraph.Schema.File
import EntityGraph.Schema.Registry
import EntityGraph.Schema.Validation
import EntityGraph.Search
import EntityGraph.Session.Client
import EntityGraph.Session.Retry
import EntityGraph.Session.Script
import EntityGraph.Session.Transaction
import EntityGraph.Text.Blank
import EntityGraph.Text.Duration
import EntityGraph.Text.Identifier
import EntityGraph.Text.Lines
import EntityGraph.Text.Number
import EntityGraph.Text.Printable
import EntityGraph.Text.Quoted
import EntityGraph.Text.Scan
import EntityGraph.Text.Utf8
import EntityGraph.Toml.Number
import EntityGraph.Toml.Parser
import EntityGraph.Toml.Placing
import EntityGraph.Toml.Printer
import EntityGraph.Toml.Value
import EntityGraph.Unicode.CombiningClass
import EntityGraph.Unicode.Composed
import EntityGraph.Unicode.Decomposition
import EntityGraph.Unicode.Direction
import EntityGraph.Unicode.Joining
import EntityGraph.Unicode.Mark
import EntityGraph.Unicode.Table
import EntityGraph.Url.Address
import EntityGraph.Url.Basic
import EntityGraph.Url.Domain
import EntityGraph.Url.Domain.Label
import EntityGraph.Url.Domain.Mapping
import EntityGraph.Url.Form
import EntityGraph.Url.Host
import EntityGraph.Url.Parser
import EntityGraph.Url.Percent
import EntityGraph.Url.Punycode
import EntityGraph.Proofs.Compile.ReadOutline
import EntityGraph.Proofs.Compile.WriteOutline
import EntityGraph.Proofs.Compile.Operation
import EntityGraph.Proofs.Compile.Tenancy
import EntityGraph.Proofs.Compile.Shape
import EntityGraph.Proofs.Graph.Basic
import EntityGraph.Proofs.Graph.Matching
import EntityGraph.Proofs.Graph.Rows
import EntityGraph.Proofs.Graph.Paths
import EntityGraph.Proofs.Listing.Basic
import EntityGraph.Proofs.Listing.Finds
import EntityGraph.Proofs.Listing.Candidates
import EntityGraph.Proofs.Listing.Page
import EntityGraph.Proofs.Listing.Traversals
import EntityGraph.Proofs.Listing.Results
import EntityGraph.Proofs.Listing.Counts
import EntityGraph.Proofs.Dict
import EntityGraph.Proofs.Cypher.Names
import EntityGraph.Proofs.Statements.Emitted
import EntityGraph.Proofs.Schema.Validation
import EntityGraph.Proofs.Statements.Identifiers
import EntityGraph.Proofs.Text.References
import EntityGraph.Proofs.Cypher.Anatomy
import EntityGraph.Proofs.Statements.Parameters
import EntityGraph.Proofs.Cypher.Scope
import EntityGraph.Proofs.Statements.Scoping
import EntityGraph.Proofs.Statements.Naming
import EntityGraph.Proofs.Session.Traces
import EntityGraph.Proofs.Repository.Writes
import EntityGraph.Proofs.Json.Equality
import EntityGraph.Proofs.Compile.Bindings
import EntityGraph.Proofs.Compile.Links
import EntityGraph.Proofs.Statements.Merges
import EntityGraph.Proofs.Compile.EdgeProperties
import EntityGraph.Proofs.Graph.Properties
import EntityGraph.Proofs.Statements.Fields
import EntityGraph.Proofs.Graph.Updates
import EntityGraph.Proofs.Graph.Effects
import EntityGraph.Proofs.Writing.Basic
import EntityGraph.Proofs.Writing.Links
import EntityGraph.Proofs.Writing.Openings
import EntityGraph.Proofs.Writing.Subqueries
import EntityGraph.Proofs.Writing.Results
import EntityGraph.Proofs.Text.Number
import EntityGraph.Proofs.Paging.Forward
import EntityGraph.Proofs.Document.Discovery
import EntityGraph.Proofs.Document.Linkage
import EntityGraph.Proofs.Json.Decode
import EntityGraph.Proofs.Document.RoundTrip
import EntityGraph.Proofs.Schema.RoundTrip
import EntityGraph.Proofs.Schema.Registry
import EntityGraph.Proofs.Schema.Ddl
import EntityGraph.Proofs.Session.Replay
import EntityGraph.Proofs.Repository.Failures
import EntityGraph.Proofs.Listing.Lookups
import EntityGraph.Proofs.Session.Answers
import EntityGraph.Proofs.Writing.Misses
import EntityGraph.Proofs.Repository.Denials
import EntityGraph.Proofs.Session.Brackets
import EntityGraph.Proofs.Statements.Updates
import EntityGraph.Proofs.Repository.Runs
import EntityGraph.Proofs.Repository.Mapping
import EntityGraph.Proofs.Repository.Columns
import EntityGraph.Proofs.Schema.Interpolation
import EntityGraph.Proofs.Compile.Elevation
import EntityGraph.Proofs.Session.Retries
import EntityGraph.Proofs.Session.Batches
import EntityGraph.Proofs.Compile.Targets
import EntityGraph.Proofs.Compile.Filling
import EntityGraph.Proofs.Statements.Linking
import EntityGraph.Proofs.Statements.EdgeMaps
import EntityGraph.Proofs.Cypher.Conflicts
import EntityGraph.Proofs.Compile.Admission
import EntityGraph.Proofs.Statements.Acceptance
import EntityGraph.Proofs.Cypher.Calls
import EntityGraph.Proofs.Cypher.Misuses
import EntityGraph.Proofs.Cypher.Windows
import EntityGraph.Proofs.Statements.Refusals
import EntityGraph.Proofs.Statements.EdgeValues
import EntityGraph.Proofs.Paging.Backward
import EntityGraph.Proofs.Document.Failures
import EntityGraph.Proofs.Text.Joined
import EntityGraph.Proofs.Cypher.Formulas
import EntityGraph.Proofs.Cypher.Precedence
import EntityGraph.Proofs.Text.Utf8
import EntityGraph.Proofs.Url.Form
import EntityGraph.Proofs.Url.Marks
import EntityGraph.Proofs.Url.Divisions
import EntityGraph.Proofs.Paging.Links
import EntityGraph.Proofs.Compile.Occurrences
import EntityGraph.Proofs.Text.Words
import EntityGraph.Proofs.Search
import EntityGraph.Proofs.Repository.Shapes
import EntityGraph.Proofs.Repository.Entities
import EntityGraph.Proofs.Schema.Registration
import EntityGraph.Proofs.Document.Merging
import EntityGraph.Proofs.Text.Lines
import EntityGraph.Proofs.Cypher.Lines
import EntityGraph.Proofs.Cypher.Layout
import EntityGraph.Proofs.Cypher.Nesting
