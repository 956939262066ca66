import LetterMachine.Text.Blank
import LetterMachine.Text.Digit
import LetterMachine.Text.Encoding
import LetterMachine.Text.Cased
import LetterMachine.Text.LetterCase
import LetterMachine.Text.Lines
import LetterMachine.Text.Quoted
import LetterMachine.Text.Utf8
import LetterMachine.Register
import LetterMachine.Instruction
import LetterMachine.Report
import LetterMachine.Workbench
import LetterMachine.Machine.Run
import LetterMachine.Naming
import LetterMachine.Yaml.Scalar.Plain
import LetterMachine.Yaml.Scalar.Quoted
import LetterMachine.Yaml.Scalar.Block
import LetterMachine.Yaml.Stream
import LetterMachine.Decimal.Shortest
import LetterMachine.Yaml.Shape
import LetterMachine.Yaml.Number
import LetterMachine.Yaml.Binary
import LetterMachine.Yaml.Document
import LetterMachine.Settings
import LetterMachine.Source
import LetterMachine.Command.Request
import LetterMachine.Command.Run
import LetterMachine.Service.Json.Reader
import LetterMachine.Service.Response
import LetterMachine.Main
import LetterMachine.Proofs.Step
import LetterMachine.Proofs.Lockstep
import LetterMachine.Proofs.Trail
import LetterMachine.Proofs.Call
import LetterMachine.Proofs.Registers
import LetterMachine.Proofs.Failure
import LetterMachine.Proofs.Canonical
import LetterMachine.Proofs.Lines
import LetterMachine.Proofs.Draft
import LetterMachine.Proofs.Checked
import LetterMachine.Proofs.Flow
import LetterMachine.Proofs.Halting
import LetterMachine.Proofs.RoundTrip
import LetterMachine.Proofs.Alike
import LetterMachine.Proofs.Endless
import LetterMachine.Proofs.Pointer
import LetterMachine.Proofs.Agreement
import LetterMachine.Proofs.Limit
import LetterMachine.Proofs.Grammar
import LetterMachine.Proofs.Fault
import LetterMachine.Proofs.Concatenation
import LetterMachine.Proofs.Continuation
import LetterMachine.Proofs.Strictness
import LetterMachine.Proofs.Service
import LetterMachine.Proofs.Semantics
import LetterMachine.Proofs.Cause
import LetterMachine.Proofs.Breaks
import LetterMachine.Proofs.File
import LetterMachine.Proofs.Listing
import LetterMachine.Proofs.Independence
import LetterMachine.Proofs.History
import LetterMachine.Proofs.SourceMap
import LetterMachine.Proofs.Layout
import LetterMachine.Proofs.Reuse
import LetterMachine.Proofs.Resolution
import LetterMachine.Proofs.Trace
import LetterMachine.Proofs.LineEnds
import LetterMachine.Proofs.Spelling
import LetterMachine.Proofs.Source
import LetterMachine.Proofs.Settings
