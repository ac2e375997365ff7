import StackShell.Command.Builtin
import StackShell.Command.OperatorName
import StackShell.Command.Routine
import StackShell.Command.Shape
import StackShell.Command.Signature
import StackShell.Command.TextExtension
import StackShell.Command.Vocabulary
import StackShell.CommandLine.Action
import StackShell.CommandLine.Console
import StackShell.CommandLine.Folder
import StackShell.CommandLine.Operands
import StackShell.CommandLine.Report
import StackShell.CommandLine.Run
import StackShell.CommandLine.Runner
import StackShell.CommandLine.Settings
import StackShell.CommandLine.Usage
import StackShell.Decimal.Binary
import StackShell.Decimal.Integer
import StackShell.Decimal.Power
import StackShell.Decimal.Real
import StackShell.Decimal.Shortest
import StackShell.Diagnostic.Colour
import StackShell.Diagnostic.Columns
import StackShell.Diagnostic.Excerpt
import StackShell.Document.Basic
import StackShell.Document.Reader
import StackShell.Document.Writer
import StackShell.Failure
import StackShell.Host.Basic
import StackShell.Host.Screen
import StackShell.Host.Session
import StackShell.Host.Terminal
import StackShell.Machine
import StackShell.Main
import StackShell.Number
import StackShell.Platform
import StackShell.Program.Basic
import StackShell.Program.Block
import StackShell.Program.Equality
import StackShell.Program.Escape
import StackShell.Program.Printer
import StackShell.Program.Reader
import StackShell.Program.StackValue
import StackShell.Program.Token
import StackShell.Proofs.Acts
import StackShell.Proofs.Arguments
import StackShell.Proofs.Atomicity
import StackShell.Proofs.Batches
import StackShell.Proofs.Boundary
import StackShell.Proofs.Cancellation
import StackShell.Proofs.Diagnostics
import StackShell.Proofs.Dialogue
import StackShell.Proofs.Documents.Failures
import StackShell.Proofs.Documents.Leaves
import StackShell.Proofs.Documents.LineEnds
import StackShell.Proofs.Documents.Sessions
import StackShell.Proofs.Documents.Values
import StackShell.Proofs.Encodings
import StackShell.Proofs.Equality
import StackShell.Proofs.Evaluation
import StackShell.Proofs.Excerpts
import StackShell.Proofs.Failures
import StackShell.Proofs.Folders
import StackShell.Proofs.Framing
import StackShell.Proofs.Imports
import StackShell.Proofs.Innermost
import StackShell.Proofs.Invocations
import StackShell.Proofs.Limit
import StackShell.Proofs.Numerals.Doubles
import StackShell.Proofs.Numerals.Rounding
import StackShell.Proofs.Numerals.Shortest
import StackShell.Proofs.Numerals.Written
import StackShell.Proofs.OperatorNames
import StackShell.Proofs.Operators
import StackShell.Proofs.Persistence
import StackShell.Proofs.Places.Basic
import StackShell.Proofs.Places.Reader
import StackShell.Proofs.Places.Routines
import StackShell.Proofs.Places.Runs
import StackShell.Proofs.Places.Tokens
import StackShell.Proofs.Places.Values
import StackShell.Proofs.Plain.Basic
import StackShell.Proofs.Plain.Builtins
import StackShell.Proofs.Plain.Printing
import StackShell.Proofs.Plain.Reader
import StackShell.Proofs.Plain.Routines
import StackShell.Proofs.Plain.Run
import StackShell.Proofs.Plain.Vocabulary
import StackShell.Proofs.Printing.Literals
import StackShell.Proofs.Printing.RoundTrip
import StackShell.Proofs.Printing.Short
import StackShell.Proofs.Printing.Words
import StackShell.Proofs.Registration
import StackShell.Proofs.Relocation
import StackShell.Proofs.Resolution
import StackShell.Proofs.Restoration
import StackShell.Proofs.Results
import StackShell.Proofs.Rewrites
import StackShell.Proofs.Routines
import StackShell.Proofs.Runners
import StackShell.Proofs.Runs
import StackShell.Proofs.Sessions
import StackShell.Proofs.ShapeTests
import StackShell.Proofs.Simulation
import StackShell.Proofs.Snapshot
import StackShell.Proofs.Statements
import StackShell.Proofs.Survival
import StackShell.Proofs.Syntax.Completion
import StackShell.Proofs.Syntax.Cuts
import StackShell.Proofs.Syntax.Joining
import StackShell.Proofs.Syntax.Lexing
import StackShell.Proofs.Syntax.Lines
import StackShell.Proofs.Syntax.Meaning
import StackShell.Proofs.Syntax.Names
import StackShell.Proofs.Syntax.Patterns
import StackShell.Proofs.Syntax.Positions
import StackShell.Proofs.Syntax.Prefixes
import StackShell.Proofs.Syntax.Refusals
import StackShell.Proofs.Syntax.Shapes
import StackShell.Proofs.Syntax.Trees
import StackShell.Proofs.Tables
import StackShell.Proofs.Tasks
import StackShell.Proofs.Templates
import StackShell.Proofs.Terminals
import StackShell.Proofs.Totals
import StackShell.Proofs.Uncoloured
import StackShell.Proofs.Viewers
import StackShell.Proofs.Vocabularies
import StackShell.Proofs.Yields
import StackShell.Snapshot.Decode
import StackShell.Snapshot.Encode
import StackShell.State
import StackShell.Table
import StackShell.Text.Ansi
import StackShell.Text.Basic
import StackShell.Text.Blank
import StackShell.Text.CaseTable
import StackShell.Text.CodePoint
import StackShell.Text.Digit
import StackShell.Text.Encoding
import StackShell.Text.Layout
import StackShell.Text.LetterCase
import StackShell.Text.Lines
import StackShell.Text.Printable
import StackShell.Text.Quoted
import StackShell.Text.Ranges
import StackShell.Text.Search
import StackShell.Text.Similarity
import StackShell.Text.Split
