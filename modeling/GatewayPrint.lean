import GatewayPrint.App
import GatewayPrint.CommandLine.Grammar
import GatewayPrint.CommandLine.Help
import GatewayPrint.CommandLine.Settings
import GatewayPrint.Console.Highlight
import GatewayPrint.Console.LogView
import GatewayPrint.Console.Markup
import GatewayPrint.Console.Message
import GatewayPrint.Console.Styled
import GatewayPrint.Console.Table
import GatewayPrint.Console.Wrap
import GatewayPrint.Doctor.Checks
import GatewayPrint.Doctor.Report
import GatewayPrint.Engine.Basic
import GatewayPrint.Engine.Registry
import GatewayPrint.Failure
import GatewayPrint.Files.Path
import GatewayPrint.Files.Tree
import GatewayPrint.Json.Escape
import GatewayPrint.Json.Reader
import GatewayPrint.Json.Writer
import GatewayPrint.Kubeconfig.Discovery
import GatewayPrint.Kubeconfig.Fault
import GatewayPrint.Kubeconfig.Merged
import GatewayPrint.Kubeconfig.Node
import GatewayPrint.Log
import GatewayPrint.Namespace.Active
import GatewayPrint.Namespace.Filter
import GatewayPrint.Number.Calendar
import GatewayPrint.Number.DecimalText
import GatewayPrint.Number.Double
import GatewayPrint.Number.Numeral
import GatewayPrint.Number.Whole
import GatewayPrint.PrintRun
import GatewayPrint.Program
import GatewayPrint.Proofs.Association
import GatewayPrint.Proofs.Boundary
import GatewayPrint.Proofs.CommandLine.Occurrences
import GatewayPrint.Proofs.CommandLine.Verbose
import GatewayPrint.Proofs.Console.EmojiCodes
import GatewayPrint.Proofs.Console.Escaping
import GatewayPrint.Proofs.Console.Shown
import GatewayPrint.Proofs.Console.Wrapping
import GatewayPrint.Proofs.Doctor
import GatewayPrint.Proofs.Elementwise
import GatewayPrint.Proofs.Engine.Classification
import GatewayPrint.Proofs.Engine.Selection
import GatewayPrint.Proofs.ErrorText
import GatewayPrint.Proofs.Halves
import GatewayPrint.Proofs.Json.RoundTrip
import GatewayPrint.Proofs.Json.Strings
import GatewayPrint.Proofs.Json.Writable
import GatewayPrint.Proofs.KeyOrder
import GatewayPrint.Proofs.Kubeconfig.Alike
import GatewayPrint.Proofs.Kubeconfig.Digits
import GatewayPrint.Proofs.Kubeconfig.FirstFile
import GatewayPrint.Proofs.Kubeconfig.Handled
import GatewayPrint.Proofs.Kubeconfig.Listed
import GatewayPrint.Proofs.Kubeconfig.LookUp
import GatewayPrint.Proofs.Kubeconfig.MergeFaults
import GatewayPrint.Proofs.Kubeconfig.Naming
import GatewayPrint.Proofs.Kubeconfig.Padding
import GatewayPrint.Proofs.Kubeconfig.Places
import GatewayPrint.Proofs.Kubeconfig.Priority
import GatewayPrint.Proofs.Kubeconfig.Readable
import GatewayPrint.Proofs.Kubeconfig.Rereading
import GatewayPrint.Proofs.Kubeconfig.Resolution
import GatewayPrint.Proofs.Kubeconfig.SameFile
import GatewayPrint.Proofs.Kubeconfig.Totality
import GatewayPrint.Proofs.Kubeconfig.UniqueContexts
import GatewayPrint.Proofs.Kubeconfig.WellShaped
import GatewayPrint.Proofs.Kubeconfig.Wording
import GatewayPrint.Proofs.Logged
import GatewayPrint.Proofs.Numerals
import GatewayPrint.Proofs.Outcome
import GatewayPrint.Proofs.Paths
import GatewayPrint.Proofs.Pieces
import GatewayPrint.Proofs.PrintCommand
import GatewayPrint.Proofs.Printable
import GatewayPrint.Proofs.Printer.Cutting
import GatewayPrint.Proofs.Printer.Framing
import GatewayPrint.Proofs.Printer.Insertion
import GatewayPrint.Proofs.Printer.Splitting
import GatewayPrint.Proofs.Printer.Stream
import GatewayPrint.Proofs.Records
import GatewayPrint.Proofs.Resource.Contract
import GatewayPrint.Proofs.Resource.Idempotent
import GatewayPrint.Proofs.Resource.PlainForm
import GatewayPrint.Proofs.Sessions
import GatewayPrint.Proofs.Shuffled
import GatewayPrint.Proofs.Sorting
import GatewayPrint.Proofs.Stdout
import GatewayPrint.Proofs.Yaml.Blocks
import GatewayPrint.Proofs.Yaml.BrokenOff
import GatewayPrint.Proofs.Yaml.Built
import GatewayPrint.Proofs.Yaml.Characters
import GatewayPrint.Proofs.Yaml.Containers
import GatewayPrint.Proofs.Yaml.Cursor
import GatewayPrint.Proofs.Yaml.Documents
import GatewayPrint.Proofs.Yaml.Faithful
import GatewayPrint.Proofs.Yaml.HandingOver
import GatewayPrint.Proofs.Yaml.Heard
import GatewayPrint.Proofs.Yaml.Integers
import GatewayPrint.Proofs.Yaml.Kept
import GatewayPrint.Proofs.Yaml.Laid
import GatewayPrint.Proofs.Yaml.Lexemes
import GatewayPrint.Proofs.Yaml.Margin
import GatewayPrint.Proofs.Yaml.Misheard
import GatewayPrint.Proofs.Yaml.Parsed
import GatewayPrint.Proofs.Yaml.Parsing
import GatewayPrint.Proofs.Yaml.Penned
import GatewayPrint.Proofs.Yaml.Plain
import GatewayPrint.Proofs.Yaml.Quoted
import GatewayPrint.Proofs.Yaml.RoundTrip
import GatewayPrint.Proofs.Yaml.Runs
import GatewayPrint.Proofs.Yaml.Scalars
import GatewayPrint.Proofs.Yaml.Styled
import GatewayPrint.Proofs.Yaml.Unended
import GatewayPrint.Proofs.Yaml.Words
import GatewayPrint.Resource.Model
import GatewayPrint.Resource.Normalize
import GatewayPrint.Resource.Printer
import GatewayPrint.Text.Base64
import GatewayPrint.Text.Blank
import GatewayPrint.Text.Case
import GatewayPrint.Text.Cased
import GatewayPrint.Text.Digit
import GatewayPrint.Text.Emoji
import GatewayPrint.Text.EmojiTable
import GatewayPrint.Text.Half
import GatewayPrint.Text.Hex
import GatewayPrint.Text.Letter
import GatewayPrint.Text.Pattern
import GatewayPrint.Text.Printable
import GatewayPrint.Text.Quoted
import GatewayPrint.Text.Split
import GatewayPrint.Text.Utf8
import GatewayPrint.Text.Uuid
import GatewayPrint.Text.Width
import GatewayPrint.Value.Basic
import GatewayPrint.Value.Display
import GatewayPrint.Value.Layout
import GatewayPrint.Value.SetOrder
import GatewayPrint.Value.Sorting
import GatewayPrint.Yaml.Document
import GatewayPrint.Yaml.Fault
import GatewayPrint.Yaml.Lexeme
import GatewayPrint.Yaml.Mark
import GatewayPrint.Yaml.Nesting
import GatewayPrint.Yaml.Node
import GatewayPrint.Yaml.Pen
import GatewayPrint.Yaml.Scalar
import GatewayPrint.Yaml.Stream
import GatewayPrint.Yaml.Style
import GatewayPrint.Yaml.Tag
import GatewayPrint.Yaml.Token
import GatewayPrint.Yaml.TokenStream
import GatewayPrint.Yaml.Writer
import GatewayPrint.Main
