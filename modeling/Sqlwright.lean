import Sqlwright.Connections
import Sqlwright.Dialect.Registry
import Sqlwright.Dialect.Template
import Sqlwright.Log.Console
import Sqlwright.Query.Session
import Sqlwright.Schema.Report
import Sqlwright.Proofs.Query.Change
import Sqlwright.Proofs.Query.Provenance
import Sqlwright.Proofs.Query.Letters
import Sqlwright.Proofs.Query.Marks
import Sqlwright.Proofs.Query.Ledger
import Sqlwright.Proofs.Query.Partition
import Sqlwright.Proofs.Query.Compile
import Sqlwright.Proofs.Dialect.Pagination
import Sqlwright.Proofs.Query.Alignment
import Sqlwright.Proofs.Query.Mutation
import Sqlwright.Proofs.Query.Windows
import Sqlwright.Proofs.Query.Chunk
import Sqlwright.Proofs.Query.Agreement
import Sqlwright.Proofs.Query.Independence
import Sqlwright.Proofs.Query.Noninterference
import Sqlwright.Proofs.Query.Tidy
import Sqlwright.Proofs.Query.Injection
import Sqlwright.Proofs.Query.Nullness
import Sqlwright.Proofs.Query.Narrowing
import Sqlwright.Proofs.Query.Keywords
import Sqlwright.Proofs.Query.Protocol
import Sqlwright.Proofs.Query.Shape
import Sqlwright.Proofs.Query.Readable
import Sqlwright.Proofs.Query.Refusal
import Sqlwright.Proofs.Schema.Change
import Sqlwright.Proofs.Schema.Lock
import Sqlwright.Proofs.Schema.WellFormed
import Sqlwright.Proofs.Schema.Agreement
import Sqlwright.Proofs.Dialect.Lexer
import Sqlwright.Proofs.Schema.Rows
import Sqlwright.Proofs.Schema.Keys
import Sqlwright.Proofs.Schema.Claims
import Sqlwright.Proofs.Schema.Phrases
import Sqlwright.Proofs.Number.Numeral
import Sqlwright.Proofs.Text.Occurrence
import Sqlwright.Proofs.Schema.KeyClauses
import Sqlwright.Proofs.Schema.Literals
import Sqlwright.Proofs.Schema.Finding
import Sqlwright.Proofs.Schema.Refusal
import Sqlwright.Proofs.Schema.History
import Sqlwright.Proofs.Schema.Clauses
import Sqlwright.Proofs.Schema.Labels
import Sqlwright.Proofs.Schema.Membership
import Sqlwright.Proofs.Text.LetterCase
import Sqlwright.Proofs.Text.Strip
import Sqlwright.Proofs.Dialect.Registry
import Sqlwright.Proofs.Schema.Reception
import Sqlwright.Proofs.Schema.Aftermath
import Sqlwright.Proofs.Schema.Reordering
import Sqlwright.Proofs.Schema.Values
import Sqlwright.Proofs.Schema.EmptyLists
import Sqlwright.Proofs.Schema.Carriers
import Sqlwright.Proofs.Dialect.Unquoting
import Sqlwright.Proofs.Query.Spacing
import Sqlwright.Proofs.Query.Sending
import Sqlwright.Proofs.Query.Markers
import Sqlwright.Proofs.Log.Secrets
import Sqlwright.Proofs.Log.Retention
import Sqlwright.Proofs.Text.Utf8
import Sqlwright.Proofs.Text.Words
import Sqlwright.Proofs.Connection.Percent
import Sqlwright.Proofs.Connection.Secrets
import Sqlwright.Proofs.Dialect.QuotedName
import Sqlwright.Proofs.Schema.Counting
import Sqlwright.Proofs.Schema.SizeText
import Sqlwright.Proofs.Schema.Sizes
import Sqlwright.Proofs.Query.ColumnTerms
import Sqlwright.Proofs.Query.TableTerms
import Sqlwright.Proofs.Dialect.Literal
import Sqlwright.Proofs.Query.Interpolation
import Sqlwright.Proofs.Query.ShownText
