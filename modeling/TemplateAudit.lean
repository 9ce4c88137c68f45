import TemplateAudit.Audit
import TemplateAudit.Baseline.Basic
import TemplateAudit.Baseline.Session
import TemplateAudit.CommandLine.Explanation
import TemplateAudit.CommandLine.Invocation
import TemplateAudit.CommandLine.Options
import TemplateAudit.CommandLine.Run
import TemplateAudit.Config.Basic
import TemplateAudit.Config.Builtin
import TemplateAudit.Config.Text
import TemplateAudit.Decimal.Binary64
import TemplateAudit.Decimal.Format
import TemplateAudit.Decimal.Reader
import TemplateAudit.Decimal.Shortest
import TemplateAudit.Engine.Basic
import TemplateAudit.Engine.Check
import TemplateAudit.Error
import TemplateAudit.Evaluation
import TemplateAudit.Files
import TemplateAudit.Finding
import TemplateAudit.Form
import TemplateAudit.Json.Basic
import TemplateAudit.Json.Printer
import TemplateAudit.Json.Reader
import TemplateAudit.Json.Written
import TemplateAudit.LineIndex.Basic
import TemplateAudit.LineIndex.Layout
import TemplateAudit.LineIndex.Scan
import TemplateAudit.Loading
import TemplateAudit.Main
import TemplateAudit.Path
import TemplateAudit.Pattern.AsciiClass
import TemplateAudit.Pattern.Expr
import TemplateAudit.Pattern.Look
import TemplateAudit.Pattern.Parser
import TemplateAudit.Proofs.Engine.Location
import TemplateAudit.Proofs.Engine.Resources
import TemplateAudit.Proofs.Finding
import TemplateAudit.Proofs.Json.Address
import TemplateAudit.Proofs.Json.Literal
import TemplateAudit.Proofs.LineIndex.Completeness
import TemplateAudit.Proofs.LineIndex.Coverage
import TemplateAudit.Proofs.LineIndex.Grammar
import TemplateAudit.Proofs.LineIndex.Layout
import TemplateAudit.Proofs.LineIndex.Outline
import TemplateAudit.Proofs.LineIndex.Reading
import TemplateAudit.Proofs.LineIndex.Resolution
import TemplateAudit.Proofs.LineIndex.Soundness
import TemplateAudit.Proofs.Path.Canonical
import TemplateAudit.Report.Basic
import TemplateAudit.Report.Format
import TemplateAudit.Report.Timestamp
import TemplateAudit.Rule
import TemplateAudit.Selection
import TemplateAudit.Severity
import TemplateAudit.SourceMap
import TemplateAudit.Template
import TemplateAudit.Text.Blank
import TemplateAudit.Text.Case
import TemplateAudit.Text.CaseData
import TemplateAudit.Text.Octets
import TemplateAudit.Text.Printable
import TemplateAudit.Text.RangeSet
import TemplateAudit.Tree
import TemplateAudit.Unicode.Age
import TemplateAudit.Unicode.Category
import TemplateAudit.Unicode.Derived
import TemplateAudit.Unicode.Folding
import TemplateAudit.Unicode.Listed
import TemplateAudit.Unicode.Property
import TemplateAudit.Unicode.Script
import TemplateAudit.Unicode.Segmentation
import TemplateAudit.Yaml.Input
import TemplateAudit.Yaml.Node
import TemplateAudit.Yaml.Printer
import TemplateAudit.Yaml.ScalarText
import TemplateAudit.Yaml.Token
import TemplateAudit.Yaml.Value
import TemplateAudit.Yaml.View
import TemplateAudit.Proofs.Audit.Completeness
import TemplateAudit.Proofs.Audit.Relocation
import TemplateAudit.Proofs.Audit.WellFormed
import TemplateAudit.Proofs.Loading
import TemplateAudit.Proofs.Audit.Declarative
import TemplateAudit.Proofs.Report.Order
import TemplateAudit.Proofs.Baseline.Snapshot
import TemplateAudit.Proofs.SourceMap
import TemplateAudit.Proofs.Json.KeyCase
import TemplateAudit.Proofs.Engine.LetterCase
import TemplateAudit.Proofs.Json.Reordering
import TemplateAudit.Proofs.Engine.Reordering
import TemplateAudit.Proofs.Audit.Suppression
import TemplateAudit.Proofs.LineIndex.Nodes
import TemplateAudit.Proofs.LineIndex.Walk
import TemplateAudit.Proofs.Text.Case
import TemplateAudit.Proofs.Path.FirstStep
import TemplateAudit.Proofs.LineIndex.Root
import TemplateAudit.Proofs.LineIndex.Malformed
import TemplateAudit.Proofs.Config.Defects
import TemplateAudit.Proofs.Config.Lookup
import TemplateAudit.Proofs.Report.Counts
import TemplateAudit.Proofs.CommandLine.Verdict
import TemplateAudit.Proofs.Json.Texts
import TemplateAudit.Proofs.Json.Printing
import TemplateAudit.Proofs.Json.Records
import TemplateAudit.Proofs.SourceMap.Encoding
import TemplateAudit.Proofs.Report.Human
import TemplateAudit.Proofs.Json.ReadBack
import TemplateAudit.Proofs.Report.Lossless
import TemplateAudit.Proofs.Decimal.Rounding
import TemplateAudit.Proofs.Decimal.Notation
import TemplateAudit.Proofs.Yaml.Typing
import TemplateAudit.Proofs.Yaml.ScalarText
import TemplateAudit.Proofs.Yaml.Scanning
import TemplateAudit.Proofs.Yaml.Layout
import TemplateAudit.Proofs.Yaml.Composing
import TemplateAudit.Proofs.Yaml.Reading
import TemplateAudit.Proofs.Yaml.Records
import TemplateAudit.Proofs.Config.RoundTrip
import TemplateAudit.Proofs.Finding.Preorder
import TemplateAudit.Proofs.LineIndex.NodePaths
