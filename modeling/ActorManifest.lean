import ActorManifest.Actor
import ActorManifest.Breakdown
import ActorManifest.Command.Arguments
import ActorManifest.Command.Report
import ActorManifest.Command.Run
import ActorManifest.Command.Show
import ActorManifest.Config.Basic
import ActorManifest.Config.Loading
import ActorManifest.Digest.Sha256
import ActorManifest.Document.Basic
import ActorManifest.Document.Order
import ActorManifest.Document.Parts
import ActorManifest.Document.Scalar
import ActorManifest.Entries
import ActorManifest.EnvFile.Statement
import ActorManifest.EnvFile.Variables
import ActorManifest.Fields
import ActorManifest.Host.Basic
import ActorManifest.Host.Environment
import ActorManifest.Host.FileTree
import ActorManifest.Host.Path
import ActorManifest.Host.Snapshot
import ActorManifest.Json.Basic
import ActorManifest.Json.Reader
import ActorManifest.Json.Writer
import ActorManifest.Main
import ActorManifest.Manifest
import ActorManifest.Manifest.File
import ActorManifest.Notice
import ActorManifest.Number.Binary64
import ActorManifest.Number.Decimal
import ActorManifest.Number.Integer
import ActorManifest.Octets.Base64
import ActorManifest.Proofs.Actor.Agreement
import ActorManifest.Proofs.Actor.Reload
import ActorManifest.Proofs.Entries
import ActorManifest.Proofs.Fields
import ActorManifest.Proofs.Json.Escape
import ActorManifest.Proofs.Json.Layout
import ActorManifest.Proofs.Json.Number
import ActorManifest.Proofs.Json.Numeral
import ActorManifest.Proofs.Json.Octets
import ActorManifest.Proofs.Json.Sorted
import ActorManifest.Proofs.Json.Spelling
import ActorManifest.Proofs.Ledger.Agreement
import ActorManifest.Proofs.Ledger.Basic
import ActorManifest.Proofs.Ledger.History
import ActorManifest.Proofs.Ledger.Interleaving
import ActorManifest.Proofs.Ledger.Reached
import ActorManifest.Proofs.Ledger.Reload
import ActorManifest.Proofs.Manifest.RoundTrip
import ActorManifest.Proofs.Source.Locator
import ActorManifest.Proofs.Spec.Canonical
import ActorManifest.Proofs.Spec.RoundTrip
import ActorManifest.Proofs.Spec.Tidy
import ActorManifest.Proofs.Text.Digits
import ActorManifest.Proofs.Time.Calendar
import ActorManifest.Proofs.Time.Reading
import ActorManifest.Proofs.Time.Wire
import ActorManifest.Refusal
import ActorManifest.Source.Locator
import ActorManifest.Source.Partner
import ActorManifest.Spec.Basic
import ActorManifest.Spec.Build
import ActorManifest.Spec.Projection
import ActorManifest.Spec.Service
import ActorManifest.Status.Condition
import ActorManifest.Status.Ledger
import ActorManifest.Status.Phase
import ActorManifest.Status.Reason
import ActorManifest.Text.Basic
import ActorManifest.Text.Case
import ActorManifest.Text.CodePoint
import ActorManifest.Text.Quoted
import ActorManifest.Text.Utf8
import ActorManifest.Time.Calendar
import ActorManifest.Time.Iso
import ActorManifest.Time.Timestamp
import ActorManifest.Unicode.Blank
import ActorManifest.Unicode.Case
import ActorManifest.Unicode.CaseMap
import ActorManifest.Unicode.Digit
import ActorManifest.Unicode.Letter
import ActorManifest.Unicode.Printable
import ActorManifest.Unicode.Run
import ActorManifest.Yaml.Cursor
import ActorManifest.Yaml.Fault
import ActorManifest.Yaml.Graph
import ActorManifest.Yaml.Loader
import ActorManifest.Yaml.Merge
import ActorManifest.Yaml.Node
import ActorManifest.Yaml.Node.Assembly
import ActorManifest.Yaml.Tag
import ActorManifest.Yaml.Token
import ActorManifest.Yaml.Token.Block
import ActorManifest.Yaml.Token.Lexer
import ActorManifest.Yaml.Token.Mark
import ActorManifest.Yaml.Token.Plain
import ActorManifest.Yaml.Token.Quoted
import ActorManifest.Yaml.Value
import ActorManifest.Yaml.Writer
import ActorManifest.Proofs.Document.Short
import ActorManifest.Proofs.Schema
import ActorManifest.Proofs.Json.Limits
import ActorManifest.Proofs.Spec.Schema
import ActorManifest.Proofs.Ledger.Schema
import ActorManifest.Proofs.Actor.Schema
import ActorManifest.Proofs.Ledger.Limits
import ActorManifest.Proofs.Yaml.Sound
import ActorManifest.Proofs.Yaml.Loading
import ActorManifest.Proofs.Manifest.Failure
import ActorManifest.Proofs.Command.Failure
import ActorManifest.Proofs.Actor.Generation
import ActorManifest.Proofs.Host.FileTree
import ActorManifest.Proofs.Time.Order
import ActorManifest.Proofs.Config.Environment
import ActorManifest.Proofs.Command.Session
import ActorManifest.Proofs.Yaml.Cursor
import ActorManifest.Proofs.Yaml.Quoted
import ActorManifest.Proofs.Yaml.Plain
import ActorManifest.Proofs.Yaml.Lexing
import ActorManifest.Proofs.Yaml.Scalars
import ActorManifest.Proofs.Yaml.Written
import ActorManifest.Proofs.Yaml.Blocks
import ActorManifest.Proofs.Yaml.Nodes
import ActorManifest.Proofs.Yaml.Cells
import ActorManifest.Proofs.Yaml.Filling
import ActorManifest.Proofs.Yaml.Parts
import ActorManifest.Proofs.Yaml.RoundTrip
import ActorManifest.Proofs.Manifest.YamlRoundTrip
import ActorManifest.Proofs.Text.CodePoint
import ActorManifest.Proofs.Unicode.CaseMap
import ActorManifest.Proofs.Unicode.Ascii
import ActorManifest.Proofs.Ledger.Moments
import ActorManifest.Proofs.Reason.Words
import ActorManifest.Proofs.Reason.Settled
import ActorManifest.Proofs.Reason.Letters
import ActorManifest.Proofs.Reason.Initials
import ActorManifest.Proofs.Reason.Spellings
import ActorManifest.Proofs.Readings
import ActorManifest.Proofs.Spec.Variables
import ActorManifest.Proofs.Spec.Ports
import ActorManifest.Proofs.Manifest.Wrapping
import ActorManifest.Proofs.Spec.Edits
import ActorManifest.Proofs.Spec.Variants
import ActorManifest.Proofs.Document.Order
import ActorManifest.Proofs.EnvFile.Variables
import ActorManifest.Proofs.Config.Settings
import ActorManifest.Proofs.Config.Content
import ActorManifest.Proofs.Config.Precedence
import ActorManifest.Proofs.Command.Run
import ActorManifest.Proofs.Command.Level
import ActorManifest.Proofs.Command.Restore
import ActorManifest.Proofs.Reason.Boundaries
import ActorManifest.Proofs.Json.Ascii
import ActorManifest.Proofs.Command.Printing
import ActorManifest.Proofs.Command.Shown
import ActorManifest.Proofs.Command.Inspection
