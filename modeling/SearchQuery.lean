import SearchQuery.Text.Basic
import SearchQuery.Text.Ranges
import SearchQuery.Text.Blank
import SearchQuery.Text.Digit
import SearchQuery.Text.Printable
import SearchQuery.Text.Lowercase
import SearchQuery.Text.Escape
import SearchQuery.Text.Quoted
import SearchQuery.Double.Basic
import SearchQuery.Double.Shortest
import SearchQuery.Double.Notation
import SearchQuery.Double.Numeral
import SearchQuery.Number
import SearchQuery.Query.Error
import SearchQuery.Modifier.Basic
import SearchQuery.Modifier.Draft
import SearchQuery.Calendar
import SearchQuery.Scalar
import SearchQuery.Query.Buffer
import SearchQuery.Query.Handle
import SearchQuery.Query.Surroundings
import SearchQuery.Value.Basic
import SearchQuery.Query.Term
import SearchQuery.Value.Shelf
import SearchQuery.Value.Limit
import SearchQuery.Value.Setter
import SearchQuery.Query.Basic
import SearchQuery.Query.Literal
import SearchQuery.Query.Write
import SearchQuery.Query.Render
import SearchQuery.Query.Scope
import SearchQuery.Query.Range
import SearchQuery.Query.Boost
import SearchQuery.Text.Width
import SearchQuery.Value.Bound
import SearchQuery.Query.Unescaped
import SearchQuery.Query.Call
import SearchQuery.Query.Clause
import SearchQuery.Query.Store
import SearchQuery.Query.Forward
import SearchQuery.Query.Attempt
import SearchQuery.Config.Document
import SearchQuery.Config.Error
import SearchQuery.Yaml.Fault
import SearchQuery.Yaml.Cursor
import SearchQuery.Yaml.Time
import SearchQuery.Yaml.Tag
import SearchQuery.Yaml.Node
import SearchQuery.Yaml.Plain
import SearchQuery.Yaml.Quotation
import SearchQuery.Text.Base64
import SearchQuery.Double.Arithmetic
import SearchQuery.Yaml.Number
import SearchQuery.Yaml.Meaning
import SearchQuery.Yaml.Document
import SearchQuery.Yaml.BlockScalar
import SearchQuery.Text.Utf8
import SearchQuery.Yaml.Token
import SearchQuery.Yaml.Property
import SearchQuery.Yaml.Layout
import SearchQuery.Yaml.Grammar
import SearchQuery.Yaml.Read
import SearchQuery.Config.Environment
import SearchQuery.Config.Path
import SearchQuery.Config.Files
import SearchQuery.Config.Merge
import SearchQuery.Config.ModifierSection
import SearchQuery.Config.Load
import SearchQuery.CommandLine.Operand
import SearchQuery.CommandLine.Suggestion
import SearchQuery.CommandLine.Usage
import SearchQuery.CommandLine.Scan
import SearchQuery.CommandLine.Options
import SearchQuery.CommandLine.Build
import SearchQuery.Text.EmojiNames
import SearchQuery.Text.Emoji
import SearchQuery.CommandLine.Console
import SearchQuery.CommandLine.Run
import SearchQuery.Main
import SearchQuery.Proofs.Query.Buffer
import SearchQuery.Proofs.Query.Growth
import SearchQuery.Proofs.Query.Outcome
import SearchQuery.Proofs.Query.Run
import SearchQuery.Proofs.Value.Literal
import SearchQuery.Proofs.Modifier.Equality
import SearchQuery.Proofs.Query.Rendering
import SearchQuery.Proofs.Text.Balance
import SearchQuery.Proofs.Text.Escaped
import SearchQuery.Proofs.Text.Reading
import SearchQuery.Proofs.Text.Bare
import SearchQuery.Proofs.Number.Alphabet
import SearchQuery.Proofs.Query.Alternatives
import SearchQuery.Proofs.Query.Tokens
import SearchQuery.Proofs.Query.Scopes
import SearchQuery.Proofs.Value.Embedded
import SearchQuery.Proofs.Value.Limit
import SearchQuery.Proofs.Query.Attempt
import SearchQuery.Proofs.Query.Balance
import SearchQuery.Proofs.Value.Agreement
import SearchQuery.Proofs.Query.Ranges
import SearchQuery.Proofs.Value.Replaced
import SearchQuery.Proofs.Value.Norm
import SearchQuery.Proofs.Query.Decoding
import SearchQuery.Proofs.Query.Boosting
import SearchQuery.Proofs.Query.Skipping
import SearchQuery.Proofs.Value.Unrolled
import SearchQuery.Proofs.Query.Simulation
import SearchQuery.Proofs.Query.Streams
import SearchQuery.Proofs.Query.Snapshot
import SearchQuery.Proofs.Store.Session
import SearchQuery.Proofs.Store.Lock
import SearchQuery.Proofs.Store.Refusal
import SearchQuery.Proofs.Store.Independence
import SearchQuery.Proofs.Store.Forwarding
import SearchQuery.Proofs.Store.Building
import SearchQuery.Proofs.Config.Keys
import SearchQuery.Proofs.Config.Merging
import SearchQuery.Proofs.Config.Sources
import SearchQuery.Proofs.Config.Faults
import SearchQuery.Proofs.Config.Precedence
import SearchQuery.Proofs.Modifier.Setting
import SearchQuery.Proofs.Double.Rounding
import SearchQuery.Proofs.Double.Shortest
import SearchQuery.Proofs.Double.Reading
import SearchQuery.Proofs.Query.Weights
import SearchQuery.Proofs.Double.Plain
import SearchQuery.Proofs.Query.Fuzziness
import SearchQuery.Proofs.Query.Interchange
import SearchQuery.Proofs.Config.Leaves
import SearchQuery.Proofs.Text.Cut
import SearchQuery.Proofs.CommandLine.Operand
import SearchQuery.Proofs.Config.Section
import SearchQuery.Proofs.CommandLine.Console
import SearchQuery.Proofs.Text.Strip
import SearchQuery.Proofs.CommandLine.Clauses
import SearchQuery.Proofs.CommandLine.Building
import SearchQuery.Proofs.Text.Absorption
import SearchQuery.Proofs.Query.Fragments
import SearchQuery.Proofs.Number.Worth
import SearchQuery.Proofs.Query.NumberRanges
