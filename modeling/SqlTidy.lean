import SqlTidy.CommandLine.Formatter
import SqlTidy.CommandLine.Goldens
import SqlTidy.CommandLine.Inspection
import SqlTidy.Config.Document
import SqlTidy.Main
import SqlTidy.Untyped.ErrorReport
import SqlTidy.Untyped.Tokens
import SqlTidy.Proofs.Division
import SqlTidy.Proofs.Spacing
import SqlTidy.Proofs.Layout
import SqlTidy.Proofs.Folding
import SqlTidy.Proofs.Runs
import SqlTidy.Proofs.Respelling
import SqlTidy.Proofs.Formatting
import SqlTidy.Proofs.Identifiers
import SqlTidy.Proofs.Passes
import SqlTidy.Proofs.Dependence
import SqlTidy.Proofs.Places
import SqlTidy.Proofs.Gaps
import SqlTidy.Proofs.Batches
import SqlTidy.Proofs.KeywordTokens
import SqlTidy.Proofs.Policies
import SqlTidy.Proofs.Lines
import SqlTidy.Proofs.Indentation
import SqlTidy.Proofs.Outline
import SqlTidy.Proofs.Distinctness
import SqlTidy.Proofs.Patterns
import SqlTidy.Proofs.Schemas
import SqlTidy.Proofs.Fields
import SqlTidy.Proofs.Validation
import SqlTidy.Proofs.Configuration
import SqlTidy.Proofs.RoundTrip
import SqlTidy.Proofs.Precedence
import SqlTidy.Proofs.Lookup
import SqlTidy.Proofs.CommandLine
import SqlTidy.Proofs.Encoding
import SqlTidy.Proofs.Trees
import SqlTidy.Proofs.Goldens
import SqlTidy.Proofs.Loading
import SqlTidy.Proofs.Reading
import SqlTidy.Proofs.Inspection
import SqlTidy.Proofs.Lexing
import SqlTidy.Proofs.Channels
import SqlTidy.Proofs.Endings
import SqlTidy.Proofs.Buffers
import SqlTidy.Proofs.Words
