import JobShell.Argv
import JobShell.Builtin
import JobShell.Builtin.ChangeDirectory
import JobShell.Builtin.Exit
import JobShell.Child
import JobShell.Command
import JobShell.Dispatcher
import JobShell.Duration
import JobShell.Environment
import JobShell.Errno
import JobShell.Failure
import JobShell.Files.Tool
import JobShell.Files.Tree
import JobShell.Flags
import JobShell.Host
import JobShell.Job
import JobShell.JobTable
import JobShell.Journal
import JobShell.LaunchPlan
import JobShell.Log.Directive
import JobShell.Log.Filter
import JobShell.Log.Record
import JobShell.Log.Timestamp
import JobShell.Log.ValuePattern
import JobShell.Machine.Basic
import JobShell.Machine.Host
import JobShell.Machine.Image
import JobShell.Machine.Installed
import JobShell.Machine.Launch
import JobShell.Machine.Perform
import JobShell.Machine.Process
import JobShell.Machine.Request
import JobShell.Machine.Turn
import JobShell.Main
import JobShell.Paint
import JobShell.Program
import JobShell.Prompt
import JobShell.Reader
import JobShell.Reader.Editor
import JobShell.Reader.Scripted
import JobShell.Reader.Stream
import JobShell.Script.Arithmetic
import JobShell.Script.Builtin.Alias
import JobShell.Script.Builtin.Basic
import JobShell.Script.Builtin.Condition
import JobShell.Script.Builtin.Directory
import JobShell.Script.Builtin.Input
import JobShell.Script.Builtin.Limits
import JobShell.Script.Builtin.Printing
import JobShell.Script.Builtin.Reply
import JobShell.Script.Builtin.Signalling
import JobShell.Script.Builtin.Variables
import JobShell.Script.Builtin.Waiting
import JobShell.Script.Child
import JobShell.Script.Evaluation
import JobShell.Script.Expansion
import JobShell.Script.FileNames
import JobShell.Script.Grammar
import JobShell.Script.Job
import JobShell.Script.Lines
import JobShell.Script.Lookup
import JobShell.Script.Redirect
import JobShell.Script.Scan
import JobShell.Script.Simple
import JobShell.Script.Source
import JobShell.Script.Start
import JobShell.Script.State
import JobShell.Script.Syntax
import JobShell.Script.Trap
import JobShell.Shell
import JobShell.Shell.Run
import JobShell.Signal
import JobShell.Sink
import JobShell.State
import JobShell.Status
import JobShell.Text.Align
import JobShell.Text.Alphanumeric
import JobShell.Text.Blank
import JobShell.Text.ByteLength
import JobShell.Text.Bytes
import JobShell.Text.Grapheme
import JobShell.Text.GraphemeBreak
import JobShell.Text.Printable
import JobShell.Text.Quoted
import JobShell.Text.Ranges
import JobShell.Toolbox.Call
import JobShell.Toolbox.CharacterClass
import JobShell.Toolbox.Condition
import JobShell.Toolbox.Directive
import JobShell.Toolbox.Directories
import JobShell.Toolbox.Echo
import JobShell.Toolbox.Expression.Basic
import JobShell.Toolbox.Expression.Bracket
import JobShell.Toolbox.Expression.Spelling
import JobShell.Toolbox.FileTest
import JobShell.Toolbox.Floating
import JobShell.Toolbox.Format
import JobShell.Toolbox.Listing
import JobShell.Toolbox.Move
import JobShell.Toolbox.Number
import JobShell.Toolbox.Options
import JobShell.Toolbox.Pattern
import JobShell.Toolbox.Search
import JobShell.Toolbox.Search.Report
import JobShell.Toolbox.Search.Wish
import JobShell.Toolbox.Sleep
import JobShell.Toolbox.Text
import JobShell.Writer
import JobShell.Proofs.Effects
import JobShell.Proofs.Recorded
import JobShell.Proofs.Scan
import JobShell.Proofs.Sweep
import JobShell.Proofs.Accounting
import JobShell.Proofs.Kernel
import JobShell.Proofs.Await
import JobShell.Proofs.Children
import JobShell.Proofs.Reaping
import JobShell.Proofs.WakeUp
import JobShell.Proofs.Simulation
import JobShell.Proofs.Known
import JobShell.Proofs.Attribution
import JobShell.Proofs.Course
import JobShell.Proofs.Segments
import JobShell.Proofs.Session
import JobShell.Proofs.Written
import JobShell.Proofs.Prompts
import JobShell.Proofs.ReadLoop
import JobShell.Proofs.FastPath
import JobShell.Proofs.Marks
import JobShell.Proofs.Itinerary
import JobShell.Proofs.EndOfInput
import JobShell.Proofs.Words
import JobShell.Proofs.Rendering
import JobShell.Proofs.Encoding
import JobShell.Proofs.Reads
import JobShell.Proofs.Errands
import JobShell.Proofs.BlankLines
import JobShell.Proofs.FailedCommand
import JobShell.Proofs.Routing
import JobShell.Proofs.Options
import JobShell.Proofs.OptionPositions
import JobShell.Proofs.OptionTable
import JobShell.Proofs.LineGrammar
import JobShell.Proofs.CommandLine
import JobShell.Proofs.ExitStatus
import JobShell.Proofs.Calls
import JobShell.Proofs.ExitLatch
import JobShell.Proofs.Visible
import JobShell.Proofs.Quiet
import JobShell.Proofs.Warnings
import JobShell.Proofs.Numerals
import JobShell.Proofs.Refusals
import JobShell.Proofs.NullCharacters
import JobShell.Proofs.RunFailures
import JobShell.Proofs.Verdicts
import JobShell.Proofs.Notices
