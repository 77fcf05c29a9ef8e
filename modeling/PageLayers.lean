import PageLayers.Artifact.Basic
import PageLayers.Artifact.Batch
import PageLayers.Artifact.Compile
import PageLayers.Authoring.Access
import PageLayers.Authoring.Page
import PageLayers.Authoring.Patch
import PageLayers.Authoring.Property
import PageLayers.Authoring.Read
import PageLayers.Authoring.Source
import PageLayers.Authoring.Vocabulary
import PageLayers.CommandLine.Invocation
import PageLayers.CommandLine.Options
import PageLayers.CommandLine.Run
import PageLayers.Decimal.Dyadic
import PageLayers.Decimal.Layout
import PageLayers.Decimal.Shortest
import PageLayers.Digest.Sha256
import PageLayers.Document.Diagnostic
import PageLayers.Document.Directory
import PageLayers.Document.Node
import PageLayers.Engine.Basic
import PageLayers.Engine.Config
import PageLayers.Engine.Host
import PageLayers.Expression.Basic
import PageLayers.Expression.Error
import PageLayers.Expression.Eval
import PageLayers.Expression.Lexer
import PageLayers.Expression.Parser
import PageLayers.Expression.Printer
import PageLayers.Expression.Token
import PageLayers.Files.Access
import PageLayers.Files.Path
import PageLayers.Files.Tree
import PageLayers.Interaction.Program
import PageLayers.Json.Decode
import PageLayers.Json.Path
import PageLayers.Json.Pointer
import PageLayers.Json.Reader
import PageLayers.Json.Strings
import PageLayers.Json.Text
import PageLayers.Json.Value
import PageLayers.Main
import PageLayers.Ordered.Map
import PageLayers.Ordered.Set
import PageLayers.Ordered.Sort
import PageLayers.Overlay.Apply
import PageLayers.Overlay.Error
import PageLayers.Overlay.Merge
import PageLayers.Overlay.Resolved
import PageLayers.Page.Access
import PageLayers.Page.Basic
import PageLayers.Page.Checksum
import PageLayers.Page.Decode
import PageLayers.Page.Encode
import PageLayers.Page.LayerKey
import PageLayers.Registry.Manifest
import PageLayers.Registry.Request
import PageLayers.Registry.Snapshot
import PageLayers.Render.Cache
import PageLayers.Render.Evaluate
import PageLayers.Render.Format
import PageLayers.Render.Model
import PageLayers.Render.Script
import PageLayers.Render.Source
import PageLayers.Rules.AccessLists
import PageLayers.Rules.Basic
import PageLayers.Rules.Expressions
import PageLayers.Rules.Referential
import PageLayers.Rules.Structural
import PageLayers.Rules.UnusedSources
import PageLayers.Rules.Validation
import PageLayers.Rules.Versioning
import PageLayers.Store.Backend
import PageLayers.Store.Call
import PageLayers.Store.Directory
import PageLayers.Store.Memory
import PageLayers.Store.Publish
import PageLayers.Text.Alphabetic
import PageLayers.Text.Blank
import PageLayers.Text.CaseMap
import PageLayers.Text.CaseTables
import PageLayers.Text.Cased
import PageLayers.Text.Digits
import PageLayers.Text.Hex
import PageLayers.Text.Numeric
import PageLayers.Text.Printable
import PageLayers.Text.Quoted
import PageLayers.Text.Ranges
import PageLayers.Text.Split
import PageLayers.Time.Reader
import PageLayers.Time.Timestamp
import PageLayers.Toml.Reader
import PageLayers.Toml.Scalar
import PageLayers.Toml.Value
import PageLayers.Version.Basic
import PageLayers.Proofs.Outcome
import PageLayers.Proofs.Lists
import PageLayers.Proofs.Overlay.Nodes
import PageLayers.Proofs.Overlay.UniqueIds
import PageLayers.Proofs.Overlay.ClearAccess
import PageLayers.Proofs.Overlay.Accepted
import PageLayers.Proofs.Interaction.Rely
import PageLayers.Proofs.Interaction.Composed
import PageLayers.Proofs.Ordered.Map
import PageLayers.Proofs.Store.Intact
import PageLayers.Proofs.Store.PublishCalls
import PageLayers.Proofs.Store.Publisher
import PageLayers.Proofs.Store.Exclusive
import PageLayers.Proofs.Store.History
import PageLayers.Proofs.Store.Monotone
import PageLayers.Proofs.Store.Retry
import PageLayers.Proofs.Store.Ledger
import PageLayers.Proofs.CommandLine.Repeats
import PageLayers.Proofs.CommandLine.Session
import PageLayers.Proofs.CommandLine.Versions
import PageLayers.Proofs.Artifact.Compiled
import PageLayers.Proofs.Registry.Load
import PageLayers.Proofs.Registry.Published
import PageLayers.Proofs.Registry.Refresh
import PageLayers.Proofs.Render.Listing
import PageLayers.Proofs.Engine.Transparency
import PageLayers.Proofs.Ordered.Sort
import PageLayers.Proofs.Authoring.Read
import PageLayers.Proofs.Authoring.Bindings
import PageLayers.Proofs.Page.ContractTable
import PageLayers.Proofs.Render.Noninterference
import PageLayers.Proofs.Authoring.Alike
import PageLayers.Proofs.Authoring.Grouping
import PageLayers.Proofs.Expression.Grammar
import PageLayers.Proofs.Expression.ParserComplete
import PageLayers.Proofs.Ordered.Set
import PageLayers.Proofs.Expression.Faults
import PageLayers.Proofs.Expression.Scope
import PageLayers.Proofs.Render.Isolation
import PageLayers.Proofs.Version.Order
import PageLayers.Proofs.Text.Digits
import PageLayers.Proofs.Version.Text
import PageLayers.Proofs.Expression.Checked
import PageLayers.Proofs.Expression.Gas
import PageLayers.Proofs.Text.Blank
import PageLayers.Proofs.Expression.Lexemes
import PageLayers.Proofs.Expression.Nesting
import PageLayers.Proofs.Expression.Tallest
import PageLayers.Proofs.Render.Expressions
import PageLayers.Proofs.Overlay.Properties
import PageLayers.Proofs.Render.References
import PageLayers.Proofs.Registry.Precedence
import PageLayers.Proofs.Engine.Matching
import PageLayers.Proofs.Authoring.Scope
import PageLayers.Proofs.Overlay.Applied
import PageLayers.Proofs.Registry.Live
import PageLayers.Proofs.Engine.Fallback
import PageLayers.Proofs.Json.Numbers
import PageLayers.Proofs.Json.Strings
import PageLayers.Proofs.Json.WellFormed
import PageLayers.Proofs.Json.Spelling
import PageLayers.Proofs.Json.Injective
import PageLayers.Proofs.Json.Fields
import PageLayers.Proofs.Digest.Hexadecimal
import PageLayers.Proofs.Text.Split
import PageLayers.Proofs.Files.Path
import PageLayers.Proofs.Files.Tree
import PageLayers.Proofs.Page.Values
import PageLayers.Proofs.Page.Records
import PageLayers.Proofs.Page.RoundTrip
import PageLayers.Proofs.Page.Identity
import PageLayers.Proofs.Registry.Encoding
import PageLayers.Proofs.Store.Files
import PageLayers.Proofs.Store.Interchange
import PageLayers.Proofs.Store.Lasting
import PageLayers.Proofs.Authoring.Values
import PageLayers.Proofs.Authoring.Key
import PageLayers.Proofs.Artifact.Stored
import PageLayers.Proofs.Page.KeyText
import PageLayers.Proofs.Artifact.Batch
import PageLayers.Proofs.Overlay.Frame
import PageLayers.Proofs.Overlay.Commute
import PageLayers.Proofs.Overlay.PropertyMerge
import PageLayers.Proofs.Overlay.RegionMerge
import PageLayers.Proofs.Json.Path
import PageLayers.Proofs.Rules.Properties
import PageLayers.Proofs.Rules.SoundBlueprint
import PageLayers.Proofs.Expression.Lookahead
import PageLayers.Proofs.Expression.Places
import PageLayers.Proofs.Authoring.Counterparts
import PageLayers.Proofs.Artifact.Reordered
import PageLayers.Proofs.Authoring.Spelling
import PageLayers.Proofs.Authoring.Respelled
import PageLayers.Proofs.Registry.Specificity
import PageLayers.Proofs.Render.OldestFirst
import PageLayers.Proofs.Render.Requests
import PageLayers.Proofs.Render.Mirror
import PageLayers.Proofs.Expression.Balance
import PageLayers.Proofs.Expression.Calls
