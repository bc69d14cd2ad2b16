import RegisterMachine.Bank
import RegisterMachine.Bytes
import RegisterMachine.Command.Password
import RegisterMachine.Command.Registers
import RegisterMachine.Command.Run
import RegisterMachine.Command.World
import RegisterMachine.CommandLine.Command
import RegisterMachine.CommandLine.Flag
import RegisterMachine.CommandLine.Help
import RegisterMachine.Decimal
import RegisterMachine.Decimal.Binary
import RegisterMachine.FileSystem.Basic
import RegisterMachine.FileSystem.Change
import RegisterMachine.FileSystem.Path
import RegisterMachine.Footprint
import RegisterMachine.Instruction
import RegisterMachine.Invocation
import RegisterMachine.Json
import RegisterMachine.KeyedTable
import RegisterMachine.Log
import RegisterMachine.Machine
import RegisterMachine.Machine.Console
import RegisterMachine.Machine.Session
import RegisterMachine.Main
import RegisterMachine.Manual
import RegisterMachine.Numeral
import RegisterMachine.Password.Blowfish
import RegisterMachine.Password.File
import RegisterMachine.Password.Hash
import RegisterMachine.Password.Radix64
import RegisterMachine.Program
import RegisterMachine.Proofs.Bank.History
import RegisterMachine.Proofs.Command.Changes
import RegisterMachine.Proofs.Command.Course
import RegisterMachine.Proofs.Command.Parallel
import RegisterMachine.Proofs.Command.Sequence
import RegisterMachine.Proofs.Command.Stored
import RegisterMachine.Proofs.Command.Table
import RegisterMachine.Proofs.FileSystem.Agreement
import RegisterMachine.Proofs.FileSystem.Confinement
import RegisterMachine.Proofs.FileSystem.Failures
import RegisterMachine.Proofs.FileSystem.Parallel
import RegisterMachine.Proofs.FileSystem.Script
import RegisterMachine.Proofs.Instruction.Grammar
import RegisterMachine.Proofs.Instruction.Meaning
import RegisterMachine.Proofs.Instruction.Names
import RegisterMachine.Proofs.Instruction.Operands
import RegisterMachine.Proofs.Instruction.RoundTrip
import RegisterMachine.Proofs.Invocation.Assignment
import RegisterMachine.Proofs.Invocation.Changes
import RegisterMachine.Proofs.Invocation.Concerns
import RegisterMachine.Proofs.Invocation.Documentation
import RegisterMachine.Proofs.Invocation.History
import RegisterMachine.Proofs.Invocation.Intent
import RegisterMachine.Proofs.Invocation.Logging
import RegisterMachine.Proofs.Invocation.Password
import RegisterMachine.Proofs.Invocation.Precedence
import RegisterMachine.Proofs.Invocation.Presentation
import RegisterMachine.Proofs.Invocation.ProgramName
import RegisterMachine.Proofs.Invocation.Replay
import RegisterMachine.Proofs.Invocation.Sequence
import RegisterMachine.Proofs.Invocation.Status
import RegisterMachine.Proofs.Invocation.Storing
import RegisterMachine.Proofs.KeyedTable.Lookup
import RegisterMachine.Proofs.Machine.Faults
import RegisterMachine.Proofs.Machine.Independence
import RegisterMachine.Proofs.Machine.Padding
import RegisterMachine.Proofs.Machine.Persistence
import RegisterMachine.Proofs.Machine.Reachable
import RegisterMachine.Proofs.Machine.Reference
import RegisterMachine.Proofs.Machine.Session
import RegisterMachine.Proofs.Machine.Step
import RegisterMachine.Proofs.Machine.Stepping
import RegisterMachine.Proofs.Machine.Trace
import RegisterMachine.Proofs.Password.Failure
import RegisterMachine.Proofs.Password.Refused
import RegisterMachine.Proofs.Password.RoundTrip
import RegisterMachine.Proofs.Password.Start
import RegisterMachine.Proofs.Program.Lines
import RegisterMachine.Proofs.Settings.Sources
import RegisterMachine.Proofs.Store.Apart
import RegisterMachine.Proofs.Store.Clearing
import RegisterMachine.Proofs.Store.Files
import RegisterMachine.Proofs.Store.Leftover
import RegisterMachine.Proofs.Store.Loadable
import RegisterMachine.Proofs.Store.Loading
import RegisterMachine.Proofs.Store.Parallel
import RegisterMachine.Proofs.Store.RoundTrip
import RegisterMachine.Proofs.Store.Saving
import RegisterMachine.Proofs.Text.Literal
import RegisterMachine.Proofs.Text.Numeral
import RegisterMachine.Proofs.Text.Trim
import RegisterMachine.Proofs.Word.Arithmetic
import RegisterMachine.Proofs.Yaml.Word
import RegisterMachine.Settings
import RegisterMachine.Settings.Document
import RegisterMachine.Settings.File
import RegisterMachine.Slot
import RegisterMachine.Store
import RegisterMachine.Text.Base64
import RegisterMachine.Text.Quoted
import RegisterMachine.Text.Utf8
import RegisterMachine.Timestamp
import RegisterMachine.Word
import RegisterMachine.Yaml.Characters
import RegisterMachine.Yaml.Cursor
import RegisterMachine.Yaml.Node
import RegisterMachine.Yaml.Node.Read
import RegisterMachine.Yaml.Printer
import RegisterMachine.Yaml.Problem
import RegisterMachine.Yaml.Scalar
import RegisterMachine.Yaml.Token
import RegisterMachine.Yaml.Token.Scalar
import RegisterMachine.Yaml.Token.Stream
import RegisterMachine.Yaml.Value
