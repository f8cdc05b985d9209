import MobileAudit.Cache.Ledger
import MobileAudit.Cache.Store
import MobileAudit.Check.Checked
import MobileAudit.Check.Problem
import MobileAudit.Check.Scalar
import MobileAudit.Command.Config
import MobileAudit.Command.Outcome
import MobileAudit.Command.Request
import MobileAudit.Command.Run
import MobileAudit.Command.Scan
import MobileAudit.Command.Snapshot
import MobileAudit.Command.Switch
import MobileAudit.Console.Action
import MobileAudit.Console.ColorName
import MobileAudit.Console.Emoji
import MobileAudit.Console.EmojiCode
import MobileAudit.Console.Literal.Escape
import MobileAudit.Console.Literal.Fault
import MobileAudit.Console.Literal.Formatted
import MobileAudit.Console.Literal.Read
import MobileAudit.Console.Literal.Shape
import MobileAudit.Console.Literal.Token
import MobileAudit.Console.Markup
import MobileAudit.Console.Report
import MobileAudit.Console.Style
import MobileAudit.Console.Table
import MobileAudit.Diagnostic
import MobileAudit.Discovery.FileKind
import MobileAudit.Discovery.Walk
import MobileAudit.Disk.Access
import MobileAudit.Disk.Fault
import MobileAudit.Disk.Node
import MobileAudit.Disk.Path
import MobileAudit.Document.Calendar
import MobileAudit.Document.Show
import MobileAudit.Document.Value
import MobileAudit.Exclusion.Glob
import MobileAudit.Exclusion.PathFilter
import MobileAudit.Exclusion.PatternMemo
import MobileAudit.Fault
import MobileAudit.Finding
import MobileAudit.Finding.Record
import MobileAudit.Fingerprint
import MobileAudit.Json.Failure
import MobileAudit.Json.Read
import MobileAudit.Json.Write
import MobileAudit.Location
import MobileAudit.Main
import MobileAudit.Naming
import MobileAudit.Number.Binary64
import MobileAudit.Number.Decimal
import MobileAudit.Number.Limit
import MobileAudit.Number.Read
import MobileAudit.Pattern.Basic
import MobileAudit.Pattern.CharSet
import MobileAudit.Pattern.Escape
import MobileAudit.Pattern.Match
import MobileAudit.Pattern.Reader
import MobileAudit.Pattern.SetReader
import MobileAudit.Progress
import MobileAudit.Proofs.Cache.Cleanness
import MobileAudit.Proofs.Cache.Codec
import MobileAudit.Proofs.Cache.Entries
import MobileAudit.Proofs.Cache.Loading
import MobileAudit.Proofs.Cache.Location
import MobileAudit.Proofs.Cache.Persistence
import MobileAudit.Proofs.Discovery.CacheFile
import MobileAudit.Proofs.Discovery.DefaultExclusion
import MobileAudit.Proofs.Discovery.Exactness
import MobileAudit.Proofs.Discovery.FileNamePattern
import MobileAudit.Proofs.Discovery.Pruning
import MobileAudit.Proofs.Disk.Access
import MobileAudit.Proofs.Disk.PathText
import MobileAudit.Proofs.Disk.ReadBack
import MobileAudit.Proofs.Document.DistinctKeys
import MobileAudit.Proofs.Document.Keys
import MobileAudit.Proofs.Document.Place
import MobileAudit.Proofs.Exclusion.GlobLanguage
import MobileAudit.Proofs.Exclusion.Selection
import MobileAudit.Proofs.Exclusion.SharedRules
import MobileAudit.Proofs.Finding.Record
import MobileAudit.Proofs.Json.Layout
import MobileAudit.Proofs.Json.Parts
import MobileAudit.Proofs.Json.Range
import MobileAudit.Proofs.Json.RoundTrip
import MobileAudit.Proofs.Json.Truncation
import MobileAudit.Proofs.Location.Lines
import MobileAudit.Proofs.Naming.Rendering
import MobileAudit.Proofs.Naming.Segmentation
import MobileAudit.Proofs.Pattern.Ends
import MobileAudit.Proofs.Pattern.Language
import MobileAudit.Proofs.Pattern.Search
import MobileAudit.Proofs.Rule.Catalog
import MobileAudit.Proofs.Rule.ConfigSecret
import MobileAudit.Proofs.Rule.KeyLine
import MobileAudit.Proofs.Rule.SourceSecret
import MobileAudit.Proofs.Rule.Storage
import MobileAudit.Proofs.Scan.Accounting
import MobileAudit.Proofs.Scan.Attachment
import MobileAudit.Proofs.Scan.Completion
import MobileAudit.Proofs.Scan.Dispatch
import MobileAudit.Proofs.Scan.History
import MobileAudit.Proofs.Scan.IgnoredRules
import MobileAudit.Proofs.Scan.Project
import MobileAudit.Proofs.Scan.Relocation
import MobileAudit.Proofs.Scan.Repetition
import MobileAudit.Proofs.Scan.Schedule
import MobileAudit.Proofs.Scan.Suppression
import MobileAudit.Proofs.Scan.Transparency
import MobileAudit.Proofs.Secret.EmbeddedToken
import MobileAudit.Proofs.Secret.PlainName
import MobileAudit.Proofs.Settings.Agreement
import MobileAudit.Proofs.Settings.Assignments
import MobileAudit.Proofs.Settings.Background
import MobileAudit.Proofs.Settings.Breakdown
import MobileAudit.Proofs.Settings.Fields
import MobileAudit.Proofs.Settings.Isolation
import MobileAudit.Proofs.Settings.Likeness
import MobileAudit.Proofs.Settings.Masking
import MobileAudit.Proofs.Settings.Merging
import MobileAudit.Proofs.Settings.Outcomes
import MobileAudit.Proofs.Settings.Overlay
import MobileAudit.Proofs.Settings.PlainFile
import MobileAudit.Proofs.Settings.Precedence
import MobileAudit.Proofs.Settings.Provenance
import MobileAudit.Proofs.Settings.Refusal
import MobileAudit.Proofs.Settings.ShownSettings
import MobileAudit.Proofs.Settings.Spelling
import MobileAudit.Proofs.Settings.Stated
import MobileAudit.Proofs.Settings.StrayVariables
import MobileAudit.Proofs.Settings.Variables
import MobileAudit.Proofs.Surroundings.DebugCode
import MobileAudit.Proofs.Surroundings.DebugPath
import MobileAudit.Proofs.Text.Ascii
import MobileAudit.Proofs.Text.Pieces
import MobileAudit.Rule.Basic
import MobileAudit.Rule.Catalog
import MobileAudit.Rule.ConfigSecret
import MobileAudit.Rule.Platform
import MobileAudit.Rule.SourceSecret
import MobileAudit.Rule.Storage
import MobileAudit.Scan.Engine
import MobileAudit.Scan.Parser
import MobileAudit.Scan.Project
import MobileAudit.Scan.Task
import MobileAudit.Secret.Entropy
import MobileAudit.Secret.Identifier
import MobileAudit.Secret.Judgement
import MobileAudit.Secret.Shape
import MobileAudit.Settings.Basic
import MobileAudit.Settings.Environment
import MobileAudit.Settings.File
import MobileAudit.Settings.Format
import MobileAudit.Settings.Layer
import MobileAudit.Settings.Resolve
import MobileAudit.Surroundings.Debug
import MobileAudit.Surroundings.Form
import MobileAudit.Text.Base64
import MobileAudit.Text.Case
import MobileAudit.Text.CaseRun
import MobileAudit.Text.CharName
import MobileAudit.Text.Class
import MobileAudit.Text.Quoted
import MobileAudit.Text.Split
import MobileAudit.Text.Table.Alphanumeric
import MobileAudit.Text.Table.Case
import MobileAudit.Text.Table.CaseMap
import MobileAudit.Text.Table.CharName
import MobileAudit.Text.Table.CharName.Ancient
import MobileAudit.Text.Table.CharName.Asian
import MobileAudit.Text.Table.CharName.EastAsian
import MobileAudit.Text.Table.CharName.Further
import MobileAudit.Text.Table.CharName.Notation
import MobileAudit.Text.Table.CharName.Signs
import MobileAudit.Text.Table.CharName.Western
import MobileAudit.Text.Table.Digit
import MobileAudit.Text.Table.Name
import MobileAudit.Text.Table.Printable
import MobileAudit.Text.Utf8
import MobileAudit.Toml.Read
import MobileAudit.Toml.Scalar
import MobileAudit.Toml.Table
import MobileAudit.Toml.Text
import MobileAudit.Verbosity
import MobileAudit.Yaml.Block
import MobileAudit.Yaml.Content
import MobileAudit.Yaml.Cursor
import MobileAudit.Yaml.Graph
import MobileAudit.Yaml.Node
import MobileAudit.Yaml.Plain
import MobileAudit.Yaml.Quoted
import MobileAudit.Yaml.Read
import MobileAudit.Yaml.Schema
import MobileAudit.Yaml.Token
import MobileAudit.Yaml.Write
