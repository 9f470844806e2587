import ShellGuard.Cli.Completion
import ShellGuard.Cli.Grammar
import ShellGuard.Cli.Invocation
import ShellGuard.Cli.Run
import ShellGuard.Codec.Base64
import ShellGuard.Decision.Basic
import ShellGuard.Decision.Education
import ShellGuard.Decision.History
import ShellGuard.Decision.Protocol
import ShellGuard.Decision.Render
import ShellGuard.Files
import ShellGuard.Files.Disk
import ShellGuard.Finding
import ShellGuard.Json.Source
import ShellGuard.Json.Value
import ShellGuard.Main
import ShellGuard.Number.Binary64
import ShellGuard.Obfuscation.Detector
import ShellGuard.Obfuscation.Escape
import ShellGuard.Obfuscation.Plausible
import ShellGuard.Obfuscation.Technique
import ShellGuard.Path
import ShellGuard.Pattern.Basic
import ShellGuard.Pattern.Build
import ShellGuard.Pattern.Bytes
import ShellGuard.Pattern.Match
import ShellGuard.Pattern.Property
import ShellGuard.Pattern.Reach
import ShellGuard.Pattern.Reader
import ShellGuard.Pattern.Weight
import ShellGuard.Position
import ShellGuard.Proofs.Codec.Base64
import ShellGuard.Proofs.Codec.Utf8
import ShellGuard.Proofs.Decision.Consent
import ShellGuard.Proofs.Decision.Recording
import ShellGuard.Proofs.Decision.Sessions
import ShellGuard.Proofs.Decision.Trust
import ShellGuard.Proofs.Git.Push
import ShellGuard.Proofs.Git.RawText
import ShellGuard.Proofs.Git.Rewording
import ShellGuard.Proofs.Obfuscation.Encoded
import ShellGuard.Proofs.Obfuscation.Escapes
import ShellGuard.Proofs.Obfuscation.Level
import ShellGuard.Proofs.Obfuscation.Surest
import ShellGuard.Proofs.Obfuscation.Variables
import ShellGuard.Proofs.Path.Ancestors
import ShellGuard.Proofs.Pattern.Best
import ShellGuard.Proofs.Pattern.Matches
import ShellGuard.Proofs.Pattern.Memory
import ShellGuard.Proofs.Pattern.Reach
import ShellGuard.Proofs.Pattern.Ways
import ShellGuard.Proofs.Risk.Aggregation
import ShellGuard.Proofs.Risk.Privilege
import ShellGuard.Proofs.Risk.References
import ShellGuard.Proofs.Rule.Coherence
import ShellGuard.Proofs.Rule.Readable
import ShellGuard.Proofs.Rule.Reload
import ShellGuard.Proofs.Rule.Transaction
import ShellGuard.Proofs.Settings.Layers
import ShellGuard.Proofs.Syntax.Anchors
import ShellGuard.Proofs.Syntax.Bodies
import ShellGuard.Proofs.Syntax.Comments
import ShellGuard.Proofs.Syntax.Complaints
import ShellGuard.Proofs.Syntax.Descent
import ShellGuard.Proofs.Syntax.Descriptors
import ShellGuard.Proofs.Syntax.Expansions
import ShellGuard.Proofs.Syntax.Extending
import ShellGuard.Proofs.Syntax.Limit
import ShellGuard.Proofs.Syntax.Lossless
import ShellGuard.Proofs.Syntax.Nesting
import ShellGuard.Proofs.Syntax.Order
import ShellGuard.Proofs.Syntax.Outcome
import ShellGuard.Proofs.Syntax.Parentheses
import ShellGuard.Proofs.Syntax.Places
import ShellGuard.Proofs.Syntax.PlainWords
import ShellGuard.Proofs.Syntax.Progress
import ShellGuard.Proofs.Syntax.QuoteParity
import ShellGuard.Proofs.Syntax.Quoting
import ShellGuard.Proofs.Syntax.Readers
import ShellGuard.Proofs.Syntax.Relocation
import ShellGuard.Proofs.Syntax.RoundTrip
import ShellGuard.Proofs.Syntax.Script
import ShellGuard.Proofs.Syntax.Sequencing
import ShellGuard.Proofs.Syntax.Shape
import ShellGuard.Proofs.Syntax.Shielding
import ShellGuard.Proofs.Syntax.Standalone
import ShellGuard.Proofs.Syntax.Substitutions
import ShellGuard.Proofs.Syntax.Tally
import ShellGuard.Proofs.Syntax.Unclosed
import ShellGuard.Proofs.Syntax.Walk
import ShellGuard.Proofs.Syntax.Words
import ShellGuard.Proofs.Text.Occurrences
import ShellGuard.Proofs.Toml.DistinctKeys
import ShellGuard.Proofs.Toml.Lines
import ShellGuard.Proofs.Toml.Merging
import ShellGuard.Proofs.Toml.Quoted
import ShellGuard.Proofs.Toml.Tables
import ShellGuard.Proofs.Verdict.Decoding
import ShellGuard.Proofs.Verdict.Grading
import ShellGuard.Proofs.Verdict.Isolation
import ShellGuard.Proofs.Verdict.Masking
import ShellGuard.Proofs.Verdict.Silence
import ShellGuard.Report.Json
import ShellGuard.Report.Style
import ShellGuard.Report.Text
import ShellGuard.Risk.Assessment
import ShellGuard.Risk.Environment
import ShellGuard.Risk.Level
import ShellGuard.Risk.Permission
import ShellGuard.Rule.Basic
import ShellGuard.Rule.Builtin
import ShellGuard.Rule.Ci
import ShellGuard.Rule.Custom
import ShellGuard.Rule.File
import ShellGuard.Rule.Git
import ShellGuard.Rule.Store
import ShellGuard.Settings.Basic
import ShellGuard.Settings.Document
import ShellGuard.Syntax.Dialect
import ShellGuard.Syntax.Lexeme
import ShellGuard.Syntax.Lexer
import ShellGuard.Syntax.Parameter
import ShellGuard.Syntax.Parsed
import ShellGuard.Syntax.Parser
import ShellGuard.Syntax.Report
import ShellGuard.Syntax.Session
import ShellGuard.Syntax.Simple
import ShellGuard.Syntax.Token
import ShellGuard.Syntax.Tree
import ShellGuard.Syntax.Word
import ShellGuard.Text.Blank
import ShellGuard.Text.Case
import ShellGuard.Text.Digit
import ShellGuard.Text.Search
import ShellGuard.Text.Utf8
import ShellGuard.Timestamp
import ShellGuard.Toml.Document
import ShellGuard.Toml.Layout
import ShellGuard.Toml.Moment
import ShellGuard.Toml.Quoted
import ShellGuard.Toml.Reader
import ShellGuard.Toml.Record
import ShellGuard.Toml.Scalar
import ShellGuard.Toml.Value
import ShellGuard.Unicode.Age
import ShellGuard.Unicode.Break
import ShellGuard.Unicode.Category
import ShellGuard.Unicode.CharSet
import ShellGuard.Unicode.Fold
import ShellGuard.Unicode.Lowercase
import ShellGuard.Unicode.Property
import ShellGuard.Unicode.Script
import ShellGuard.Unicode.Table
import ShellGuard.Unicode.Trait
import ShellGuard.Verdict
