import AsnLexis.Candidate
import AsnLexis.CharClass
import AsnLexis.Command.Arguments
import AsnLexis.Command.Basic
import AsnLexis.Command.Config
import AsnLexis.Command.DatabaseFile
import AsnLexis.Command.Flag
import AsnLexis.Command.Listing
import AsnLexis.Command.Measure
import AsnLexis.Command.Report
import AsnLexis.Command.Run
import AsnLexis.Command.ScanFiles
import AsnLexis.Database
import AsnLexis.Database.Locator
import AsnLexis.Diagnostic
import AsnLexis.Digest
import AsnLexis.Error
import AsnLexis.Fault
import AsnLexis.Files
import AsnLexis.Files.Disk
import AsnLexis.Files.Fault
import AsnLexis.Files.Memory
import AsnLexis.Identifier
import AsnLexis.Instant
import AsnLexis.Keyword
import AsnLexis.Kind
import AsnLexis.Lexeme
import AsnLexis.Lexer
import AsnLexis.Literal.Contents
import AsnLexis.Literal.Table
import AsnLexis.Log
import AsnLexis.Main
import AsnLexis.OidIri
import AsnLexis.Path
import AsnLexis.Pipeline.Connection
import AsnLexis.Pipeline.Drain
import AsnLexis.Pipeline.Ingest
import AsnLexis.Pipeline.Job
import AsnLexis.Pipeline.Workspace
import AsnLexis.Proofs.Acceptance
import AsnLexis.Proofs.Addressing
import AsnLexis.Proofs.Arcs
import AsnLexis.Proofs.BadArcs
import AsnLexis.Proofs.BadBytes
import AsnLexis.Proofs.Canonical
import AsnLexis.Proofs.Carets
import AsnLexis.Proofs.CharacterStrings
import AsnLexis.Proofs.CommandLine
import AsnLexis.Proofs.Comments
import AsnLexis.Proofs.Consistency
import AsnLexis.Proofs.Copies
import AsnLexis.Proofs.Course
import AsnLexis.Proofs.Crew
import AsnLexis.Proofs.Cursor
import AsnLexis.Proofs.Decoding
import AsnLexis.Proofs.Diagnostics
import AsnLexis.Proofs.Drain
import AsnLexis.Proofs.ErrorCodes
import AsnLexis.Proofs.FlawPlaces
import AsnLexis.Proofs.FormLaws
import AsnLexis.Proofs.History
import AsnLexis.Proofs.Identifier
import AsnLexis.Proofs.Ingest
import AsnLexis.Proofs.Jobs
import AsnLexis.Proofs.Ledger
import AsnLexis.Proofs.Lexeme
import AsnLexis.Proofs.Lines
import AsnLexis.Proofs.Literals
import AsnLexis.Proofs.Lookahead
import AsnLexis.Proofs.Marks
import AsnLexis.Proofs.Messages
import AsnLexis.Proofs.NormalForm
import AsnLexis.Proofs.Numbers
import AsnLexis.Proofs.OidIri
import AsnLexis.Proofs.Path
import AsnLexis.Proofs.Persistence
import AsnLexis.Proofs.Position
import AsnLexis.Proofs.Profiles
import AsnLexis.Proofs.Progress
import AsnLexis.Proofs.Queue
import AsnLexis.Proofs.Quoting
import AsnLexis.Proofs.Redrain
import AsnLexis.Proofs.Resolution
import AsnLexis.Proofs.Respacing
import AsnLexis.Proofs.Retry
import AsnLexis.Proofs.Run
import AsnLexis.Proofs.Scans
import AsnLexis.Proofs.Segment
import AsnLexis.Proofs.Settings
import AsnLexis.Proofs.Spelling
import AsnLexis.Proofs.Store
import AsnLexis.Proofs.Tiling
import AsnLexis.Proofs.Trivia
import AsnLexis.Proofs.Utf8
import AsnLexis.Proofs.Words
import AsnLexis.Source
import AsnLexis.Store.Basic
import AsnLexis.Store.Dump
import AsnLexis.Store.Ingest
import AsnLexis.Store.Query
import AsnLexis.Store.Queue
import AsnLexis.Store.Scans
import AsnLexis.Store.Statement
import AsnLexis.Text.Base64
import AsnLexis.Text.Binary64
import AsnLexis.Text.Distance
import AsnLexis.Text.Integer
import AsnLexis.Text.Layout
import AsnLexis.Text.Numeral
import AsnLexis.Text.Order
import AsnLexis.Text.Quoted
import AsnLexis.Text.Utf8
import AsnLexis.Token
import AsnLexis.Tokenize
import AsnLexis.Unicode.CombiningClass
import AsnLexis.Unicode.Compatible
import AsnLexis.Unicode.Composition
import AsnLexis.Unicode.Decomposition
import AsnLexis.Unicode.LowerForm
import AsnLexis.Unicode.Lowercase
import AsnLexis.Unicode.NormalForm
import AsnLexis.Unicode.Table
import AsnLexis.Unicode.Unprintable
import AsnLexis.Unicode.Uppercase
import AsnLexis.Unicode.XidContinue
import AsnLexis.Unicode.XidStart
import AsnLexis.Yaml.Cursor
import AsnLexis.Yaml.Datum
import AsnLexis.Yaml.Encoding
import AsnLexis.Yaml.Node
import AsnLexis.Yaml.Node.Build
import AsnLexis.Yaml.Timestamp
import AsnLexis.Yaml.Token
import AsnLexis.Yaml.Token.Scalar
import AsnLexis.Yaml.Token.Stream
import AsnLexis.Yaml.Token.Word
