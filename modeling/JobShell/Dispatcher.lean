import JobShell.Builtin
import JobShell.Child
import JobShell.JobTable

/-!
Running one command.

A command whose name is registered is run by its built-in, whatever its background marker says; any
other is launched in a child, which is waited for or tracked as a job.
-/

namespace JobShell

structure Dispatcher (σ : Type) where
  builtins : Builtins σ := {}
  jobs : JobTable := {}

namespace Dispatcher

variable {σ : Type} [Host σ]

/-- What is left after a command: how it ended, the shell's state and the dispatcher. -/
abbrev Result (σ : Type) := Except ProcessError Status × ShellState × Dispatcher σ

/-- Whatever is still kept back of the standard output would otherwise come after the child's. -/
def flushFor (name : String) : Act σ Unit := do
  match ← Act.ask Host.flush with
  | .ok () => pure ()
  | .error error =>
    Act.warn .dispatcher s!"failed to flush stdout before launching {name}: {error.message}"

/-- Goes on after an attempt to start a child: a background child is tracked, any other waited
for. -/
def follow (cmd : Command) (spawned : Except ProcessError Pid) (dispatcher : Dispatcher σ) :
    Act σ (Except ProcessError Status × Dispatcher σ) :=
  match spawned with
  | .error error => pure (.error error, dispatcher)
  | .ok pid =>
    if cmd.isBackground then do
      let tracked ← dispatcher.jobs.track pid cmd.rawText
      pure (.ok (.detached pid), { dispatcher with jobs := tracked.2 })
    else do
      let status ← Child.await pid
      pure (status, dispatcher)

/-- Launches a command that is no built-in. -/
def launch (cmd : Command) (dispatcher : Dispatcher σ) :
    Act σ (Except ProcessError Status × Dispatcher σ) := do
  flushFor cmd.name
  let spawned ← Child.spawn cmd
  follow cmd spawned dispatcher

def dispatch (cmd : Command) (state : ShellState) (dispatcher : Dispatcher σ) :
    Act σ (Result σ) :=
  match dispatcher.builtins.get? cmd.name with
  | some registration => do
    Act.debug .dispatcher s!"running builtin {cmd.name}"
    let called ← dispatcher.builtins.call registration cmd state
    pure (.ok (.builtin called.1), called.2.1, { dispatcher with builtins := called.2.2 })
  | none => do
    let launched ← launch cmd dispatcher
    pure (launched.1, state, launched.2)

/-- Collects the jobs that have finished. -/
def reapFinished (dispatcher : Dispatcher σ) : Act σ (List FinishedJob × Dispatcher σ) := do
  let polled ← dispatcher.jobs.poll
  pure (polled.1, { dispatcher with jobs := polled.2 })

end Dispatcher

end JobShell
