import Primer.Bindings
import Primer.Command
import Primer.CommandLine.Log
import Primer.CommandLine.Options
import Primer.CommandLine.Run
import Primer.Console
import Primer.Declaration
import Primer.Event
import Primer.Execution
import Primer.Fault
import Primer.History
import Primer.IoError
import Primer.Labels
import Primer.Layout
import Primer.Line
import Primer.Main
import Primer.Outcome
import Primer.Program
import Primer.Proofs.BindingLayout
import Primer.Proofs.CapitalNames
import Primer.Proofs.Capitals
import Primer.Proofs.CaseInsensitivity
import Primer.Proofs.CommandGrammar
import Primer.Proofs.Concatenation
import Primer.Proofs.ConsoleHistory
import Primer.Proofs.DeclarationGrammar
import Primer.Proofs.DeclaredNumbers
import Primer.Proofs.EventLog
import Primer.Proofs.FirstDefinitions
import Primer.Proofs.FrontEnds
import Primer.Proofs.InertLines
import Primer.Proofs.LabelSplit
import Primer.Proofs.LabelTable
import Primer.Proofs.Likeness
import Primer.Proofs.LimitedOutput
import Primer.Proofs.LineOrder
import Primer.Proofs.ListedFaults
import Primer.Proofs.LoadedLines
import Primer.Proofs.Loading
import Primer.Proofs.Numerals
import Primer.Proofs.Reload
import Primer.Proofs.Running
import Primer.Proofs.Scanning
import Primer.Proofs.SourceLines
import Primer.Proofs.Tables
import Primer.Proofs.TrailingBlanks
import Primer.Proofs.ViablePrefixes
import Primer.Proofs.Walking
import Primer.Proofs.WriteOnce
import Primer.Reading
import Primer.Session
import Primer.Sheet
import Primer.Sink
import Primer.Statement
import Primer.Table
import Primer.Text.Alphabetic
import Primer.Text.Basic
import Primer.Text.Blank
import Primer.Text.Decimal
import Primer.Text.Escaped
import Primer.Text.Extender
import Primer.Text.Numeric
import Primer.Text.Ranges
import Primer.Text.Unprintable
import Primer.Text.Uppercase
import Primer.WordLine
