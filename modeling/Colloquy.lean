import Colloquy.Command.Arguments
import Colloquy.Command.Options
import Colloquy.Command.Run
import Colloquy.Command.Usage
import Colloquy.Config.Basic
import Colloquy.Config.Load
import Colloquy.Config.Read
import Colloquy.Decimal.Binary64
import Colloquy.Decimal.Shortest
import Colloquy.Diagnostic
import Colloquy.Directive.Basic
import Colloquy.Directive.Classifier
import Colloquy.Directive.Setting
import Colloquy.ElementTree.Basic
import Colloquy.ElementTree.Properties
import Colloquy.ElementTree.View
import Colloquy.Files.Directory
import Colloquy.Files.Path
import Colloquy.Fixture.Basic
import Colloquy.Fixture.Category
import Colloquy.Fixture.Check
import Colloquy.Fixture.Frontmatter
import Colloquy.Fixture.Suite
import Colloquy.Fixture.Verdict
import Colloquy.Forest
import Colloquy.Html.Escape
import Colloquy.Main
import Colloquy.Markdown.Block
import Colloquy.Markdown.Html
import Colloquy.Markdown.Inline
import Colloquy.Markdown.Run
import Colloquy.Presentation
import Colloquy.Proofs.Arena
import Colloquy.Proofs.Blocks
import Colloquy.Proofs.Canvas
import Colloquy.Proofs.Facets
import Colloquy.Proofs.Grafting
import Colloquy.Proofs.Grammar
import Colloquy.Proofs.Handles
import Colloquy.Proofs.History
import Colloquy.Proofs.Identity
import Colloquy.Proofs.Interruption
import Colloquy.Proofs.Lockstep
import Colloquy.Proofs.Lookahead
import Colloquy.Proofs.Lowering
import Colloquy.Proofs.Messages
import Colloquy.Proofs.Outcomes
import Colloquy.Proofs.Performance
import Colloquy.Proofs.Preamble
import Colloquy.Proofs.Relabelling
import Colloquy.Proofs.Resemblance
import Colloquy.Proofs.RoundTrip
import Colloquy.Proofs.Sequel
import Colloquy.Proofs.Sketch
import Colloquy.Proofs.Succession
import Colloquy.Proofs.Symmetry
import Colloquy.Proofs.Titles
import Colloquy.Proofs.Trimming
import Colloquy.Proofs.Warnings
import Colloquy.Render.Classes
import Colloquy.Render.Instruction
import Colloquy.Render.PendingFooter
import Colloquy.Render.Script
import Colloquy.Report
import Colloquy.Script
import Colloquy.Session.Basic
import Colloquy.Session.Execute
import Colloquy.Session.Participant
import Colloquy.Session.Registry
import Colloquy.Side
import Colloquy.Sink.Basic
import Colloquy.Sink.Drawing
import Colloquy.Sink.Trace
import Colloquy.Text.Blank
import Colloquy.Text.Bytes
import Colloquy.Text.Cased
import Colloquy.Text.GraphemeExtend
import Colloquy.Text.Lines
import Colloquy.Text.Lowercase
import Colloquy.Text.LowercaseTable
import Colloquy.Text.Printable
import Colloquy.Text.Punctuation
import Colloquy.Text.Quoted
import Colloquy.Text.Ranges
import Colloquy.Text.Reader
import Colloquy.Text.Search
import Colloquy.Text.Width
import Colloquy.Toml.Decode
import Colloquy.Toml.Document
import Colloquy.Toml.Scalar
import Colloquy.Toml.Text
import Colloquy.Toml.Value
import Colloquy.Proofs.Requests
import Colloquy.Proofs.Assignments
import Colloquy.Proofs.Census
import Colloquy.Proofs.Layout
import Colloquy.Proofs.Quotation
import Colloquy.Proofs.Outline
import Colloquy.Proofs.Fields
import Colloquy.Proofs.Escaping
import Colloquy.Proofs.Markup
import Colloquy.Proofs.Parentage
import Colloquy.Proofs.Recording
import Colloquy.Proofs.Frontier
import Colloquy.Proofs.Rehearsal
import Colloquy.Proofs.DocumentOrder
import Colloquy.Proofs.Joining
import Colloquy.Proofs.Splitting
import Colloquy.Proofs.LineNumbers
import Colloquy.Proofs.SettingLines
import Colloquy.Proofs.Branches
import Colloquy.Proofs.Delimiters
import Colloquy.Proofs.Discovery
import Colloquy.Proofs.Expectations
import Colloquy.Proofs.Operations
import Colloquy.Proofs.Entries
import Colloquy.Proofs.Overrides
import Colloquy.Proofs.Suites
