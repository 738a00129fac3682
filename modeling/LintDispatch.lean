import LintDispatch.Bindings
import LintDispatch.Child
import LintDispatch.CommandLine.Command
import LintDispatch.CommandLine.Declaration
import LintDispatch.CommandLine.Help
import LintDispatch.CommandLine.Overrides
import LintDispatch.CommandLine.Parser
import LintDispatch.CommandLine.Registry
import LintDispatch.Config.Basic
import LintDispatch.Config.Descriptor
import LintDispatch.Config.Field
import LintDispatch.Config.File
import LintDispatch.Config.Issue
import LintDispatch.Config.Settings
import LintDispatch.Console.Elapsed
import LintDispatch.Console.Report
import LintDispatch.Console.Shelf
import LintDispatch.Console.Transcript
import LintDispatch.Console.Verbatim
import LintDispatch.Disk.Listing
import LintDispatch.Disk.Obstacle
import LintDispatch.Disk.Path
import LintDispatch.Disk.Tree
import LintDispatch.Dispatch.Plan
import LintDispatch.Dispatch.Run
import LintDispatch.FileSet
import LintDispatch.Linter.Basic
import LintDispatch.Linter.Extension
import LintDispatch.Linter.Name
import LintDispatch.Linter.Scope
import LintDispatch.Main
import LintDispatch.Number.Double
import LintDispatch.Number.Numeral
import LintDispatch.Number.Places
import LintDispatch.Number.Shortest
import LintDispatch.PathSpec.Expansion
import LintDispatch.Proofs.CommandLine.Applying
import LintDispatch.Proofs.CommandLine.Claiming
import LintDispatch.Proofs.CommandLine.Clustering
import LintDispatch.Proofs.CommandLine.Debugging
import LintDispatch.Proofs.CommandLine.Declaring
import LintDispatch.Proofs.CommandLine.Keeping
import LintDispatch.Proofs.CommandLine.Overriding
import LintDispatch.Proofs.CommandLine.Phrasing
import LintDispatch.Proofs.CommandLine.Reading
import LintDispatch.Proofs.CommandLine.Recording
import LintDispatch.Proofs.CommandLine.Registering
import LintDispatch.Proofs.CommandLine.Targeting
import LintDispatch.Proofs.Config.Accepting
import LintDispatch.Proofs.Config.Grammar
import LintDispatch.Proofs.Config.Loading
import LintDispatch.Proofs.Console.Printing
import LintDispatch.Proofs.Console.Timing
import LintDispatch.Proofs.Disk.Following
import LintDispatch.Proofs.Disk.Spelling
import LintDispatch.Proofs.Dispatch.Previewing
import LintDispatch.Proofs.Dispatch.Running
import LintDispatch.Proofs.Dispatch.Toggling
import LintDispatch.Proofs.Linter.Choosing
import LintDispatch.Proofs.Number.Magnitude
import LintDispatch.Proofs.Outcome
import LintDispatch.Proofs.PathSpec.Descent
import LintDispatch.Proofs.PathSpec.Meaning
import LintDispatch.Proofs.PathSpec.Respelling
import LintDispatch.Proofs.Selection.Changing
import LintDispatch.Proofs.Selection.Filtering
import LintDispatch.Proofs.Selection.History
import LintDispatch.Proofs.Selection.Ignoring
import LintDispatch.Proofs.Selection.Reporting
import LintDispatch.Proofs.Selection.Scoping
import LintDispatch.Proofs.Selection.Surfacing
import LintDispatch.Proofs.Session.Bundling
import LintDispatch.Proofs.Session.Dispatching
import LintDispatch.Proofs.Session.Ending
import LintDispatch.Proofs.Session.Observing
import LintDispatch.Proofs.Session.Preparing
import LintDispatch.Proofs.Text.Breaking
import LintDispatch.Proofs.Text.Encoding
import LintDispatch.Proofs.Yaml.Composing
import LintDispatch.Proofs.Yaml.Constructing
import LintDispatch.Proofs.Yaml.Lexing
import LintDispatch.Proofs.Yaml.Merging
import LintDispatch.Proofs.Yaml.Nesting
import LintDispatch.Proofs.Yaml.Placing
import LintDispatch.Proofs.Yaml.Scanning
import LintDispatch.Selection.Change
import LintDispatch.Selection.Engine
import LintDispatch.Selection.Filters
import LintDispatch.Session
import LintDispatch.Shell.Arithmetic
import LintDispatch.Shell.Builtin
import LintDispatch.Shell.Condition
import LintDispatch.Shell.Field
import LintDispatch.Shell.Format
import LintDispatch.Shell.Glyph
import LintDispatch.Shell.Lookup
import LintDispatch.Shell.Machine
import LintDispatch.Shell.Octets
import LintDispatch.Shell.Pattern
import LintDispatch.Shell.Program
import LintDispatch.Shell.Program.Columns
import LintDispatch.Shell.Program.Dump
import LintDispatch.Shell.Program.Edit
import LintDispatch.Shell.Program.Expression
import LintDispatch.Shell.Program.Files
import LintDispatch.Shell.Program.Lines
import LintDispatch.Shell.Program.Nested
import LintDispatch.Shell.Program.Order
import LintDispatch.Shell.Program.Plain
import LintDispatch.Shell.Program.Search
import LintDispatch.Shell.Reader
import LintDispatch.Shell.Redirection
import LintDispatch.Shell.Run
import LintDispatch.Shell.Script
import LintDispatch.Shell.System
import LintDispatch.Shell.Value
import LintDispatch.Text.Base64
import LintDispatch.Text.Blank
import LintDispatch.Text.Case
import LintDispatch.Text.Lines
import LintDispatch.Text.Outdent
import LintDispatch.Text.Printable
import LintDispatch.Text.Ranges
import LintDispatch.Text.Sequence
import LintDispatch.Text.Similarity
import LintDispatch.Text.Split
import LintDispatch.Text.Utf8
import LintDispatch.Text.Width
import LintDispatch.Text.Word
import LintDispatch.Text.Wrap
import LintDispatch.Yaml.Construction
import LintDispatch.Yaml.Cursor
import LintDispatch.Yaml.Document
import LintDispatch.Yaml.Error
import LintDispatch.Yaml.Graph
import LintDispatch.Yaml.Kind
import LintDispatch.Yaml.Moment
import LintDispatch.Yaml.Node
import LintDispatch.Yaml.Node.Reader
import LintDispatch.Yaml.Text
import LintDispatch.Yaml.Timestamp
import LintDispatch.Yaml.Token
import LintDispatch.Yaml.Token.Block
import LintDispatch.Yaml.Token.Lexer
import LintDispatch.Yaml.Token.Name
import LintDispatch.Yaml.Token.Plain
import LintDispatch.Yaml.Token.Quoted
import LintDispatch.Yaml.Value
