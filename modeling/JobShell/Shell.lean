import JobShell.Builtin.ChangeDirectory
import JobShell.Dispatcher
import JobShell.Flags
import JobShell.Prompt
import JobShell.Reader
import JobShell.Sink

/-!
The read loop.

One step reports the jobs that have finished, prompts, reads a line and runs it.  The end of the
input is echoed and counts as the command `exit`, and ends the loop even if that command is
registered otherwise or not at all; so does a read that fails.  A command that cannot be launched is
reported and changes nothing else.
-/

namespace JobShell

/-- A shell with its reader `ρ` and its writer `ω` on a host `σ`. -/
structure Shell (ρ σ : Type) (ω : Type := Sink) where
  reader : ρ
  /-- Where the end of the input is echoed. -/
  out : ω := by exact {}
  state : ShellState := {}
  dispatcher : Dispatcher σ
  flags : Flags := {}

namespace Shell

variable {ρ σ ω : Type} [Host σ]

/-- A shell with the usual built-ins. -/
def new (flags : Flags) (reader : ρ) (out : ω := by exact {}) : Shell ρ σ ω :=
  { reader, out, flags, dispatcher := { builtins := .defaults } }

def withBuiltins (shell : Shell ρ σ ω) (builtins : Builtins σ) : Shell ρ σ ω :=
  { shell with dispatcher := { builtins } }

def requestExit (shell : Shell ρ σ ω) : Shell ρ σ ω :=
  { shell with state := shell.state.requestExit }

def isQuiet (shell : Shell ρ σ ω) : Bool := shell.flags.isSet .quiet

/-- Keeps the shell alive under interrupts and lets the job table wait for news of children. -/
def installSignalHandlers (shell : Shell ρ σ ω) : Act σ (Except ShellError Unit × Shell ρ σ ω) := do
  match ← Act.ask Host.catchInterrupts with
  | .error text => pure (.error (.process (.signalError text)), shell)
  | .ok () =>
    let watched ← shell.dispatcher.jobs.watch
    let shell := { shell with dispatcher := { shell.dispatcher with jobs := watched.2 } }
    pure (watched.1.mapError .process, shell)

/-- The prompt as the host has it at this moment. -/
def currentPrompt (host : σ) : String := prompt (Host.hostName host) (Host.userName host)

/-- Writes a notice for each finished job. -/
def writeNotices : List FinishedJob → Act σ Unit
  | [] => pure ()
  | finished :: rest => do
    Act.write (.notice finished)
    writeNotices rest

/-- Collects the finished jobs and tells of them unless the shell is quiet. -/
def reportFinishedJobs (shell : Shell ρ σ ω) : Act σ (Shell ρ σ ω) := do
  let reaped ← shell.dispatcher.reapFinished
  if shell.isQuiet then pure () else writeNotices reaped.1
  pure { shell with dispatcher := reaped.2 }

/-- Takes note of how a command went: its status is recorded, a failed launch is reported. -/
def conclude (name : String) (result : Except ProcessError Status) (shell : Shell ρ σ ω) :
    Act σ (Option Status × Shell ρ σ ω) :=
  match result with
  | .ok status => do
    Act.debug .readLoop s!"{name} -> {status.structural}"
    pure (some status, { shell with state := shell.state.record status })
  | .error error => do
    Act.warn .readLoop s!"failed to launch {name}: {error.message}"
    Act.write (.failure s!"{name}: {error.message}")
    pure (none, shell)

/-- Runs one command. -/
def execute (cmd : Command) (shell : Shell ρ σ ω) : Act σ (Option Status × Shell ρ σ ω) := do
  let result ← shell.dispatcher.dispatch cmd shell.state
  conclude cmd.name result.1 { shell with state := result.2.1, dispatcher := result.2.2 }

/-- Runs one line; gives how its command ended, if it had one and that could be launched. -/
def executeLine (line : String) (shell : Shell ρ σ ω) : Act σ (Option Status × Shell ρ σ ω) :=
  match Command.parse line with
  | .error .empty => pure (none, shell)
  | .ok cmd => execute cmd shell

/-- Runs one line outside the loop; gives the code of its status, 0 for a blank line and 1 if no
status came of it. -/
def runCommand (line : String) (shell : Shell ρ σ ω) : Act σ (Int × Shell ρ σ ω) :=
  if (Text.trim line.toList).isEmpty then pure (0, shell)
  else do
    let result ← executeLine line shell
    pure ((result.1.map Status.code).getD 1, result.2)

/-- The command that the end of the input stands for. -/
def exitCommand : String := "exit"

/-- Shows the end of the input as if `exit` had been typed. -/
def echoExit [Writer ω] (shell : Shell ρ σ ω) :
    Act σ (Except ShellError Unit × Shell ρ σ ω) := do
  let delivered := Writer.deliver (Bytes.ofString (exitCommand ++ "\n")) shell.out
  Act.write (.echo delivered.taken)
  pure (delivered.result.mapError .io, { shell with out := delivered.rest })

/-- Ends the loop at the end of the input, running the command it stands for if that is a
built-in. -/
def leave (shell : Shell ρ σ ω) : Act σ (Shell ρ σ ω) :=
  if shell.dispatcher.builtins.isBuiltin exitCommand then do
    let result ← executeLine exitCommand shell
    pure result.2.requestExit
  else pure shell.requestExit

/-- What follows the echo: an echo that failed ends the step at once. -/
def leaveAfter (echoed : Except ShellError Unit) (shell : Shell ρ σ ω) :
    Act σ (Except ShellError Unit × Shell ρ σ ω) :=
  match echoed with
  | .error error => pure (.error error, shell)
  | .ok () => do
    let shell ← leave shell
    pure (.ok (), shell)

variable [Writer ω]

/-- What a step does with the answer of the reader. -/
def respond (answer : ReadAnswer) (shell : Shell ρ σ ω) :
    Act σ (Except ShellError Unit × Shell ρ σ ω) :=
  match answer with
  | .line line =>
    if line.isEmpty then pure (.ok (), shell)
    else do
      let result ← executeLine line shell
      pure (.ok (), result.2)
  | .closed => do
    let echoed ← echoExit shell
    leaveAfter echoed.1 echoed.2
  | .failed error => do
    Act.warn .readLoop s!"read failed: {error.message}"
    Act.write (.failure error.message)
    pure (.ok (), shell.requestExit)

variable [LineReader ρ]

/-- Prompts and reads. -/
def readLine (shell : Shell ρ σ ω) : Act σ (ReadAnswer × Shell ρ σ ω) := do
  let prompt ← Act.view currentPrompt
  let reading := LineReader.read prompt shell.reader
  Act.write (.prompt reading.shown)
  pure (reading.answer, { shell with reader := reading.rest })

/-- One round of the loop. -/
def step (shell : Shell ρ σ ω) : Act σ (Except ShellError Unit × Shell ρ σ ω) := do
  let shell ← reportFinishedJobs shell
  let read ← readLine shell
  respond read.1 read.2

end Shell

end JobShell
