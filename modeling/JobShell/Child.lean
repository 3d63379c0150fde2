import JobShell.Journal

/-!
Launching a program in a child and waiting for its end.
-/

namespace JobShell

namespace Child

variable {σ : Type} [Host σ]

/-- Starts a child on the command's words; a word that holds a null character is refused before
anything is started. -/
def spawn (cmd : Command) : Act σ (Except ProcessError Pid) :=
  match Argv.ofCommand cmd with
  | .error word => pure (.error (.invalidArgument word))
  | .ok argv => do
    match ← Act.ask (Host.launch argv) with
    | .error errno => pure (.error (.fork errno))
    | .ok pid =>
      Act.debug .launcher
        s!"spawned {cmd.name} as pid {pid.number} (background: {cmd.isBackground})"
      pure (.ok pid)

/-- Waits until the child has ended; an answer that does not tell its end is asked for again. -/
def await (pid : Pid) (host : σ) : Outcome Entry σ (Except ProcessError Status) :=
  let asked := Act.ask (Host.wait pid) host
  match _h : (Host.wait pid host).value with
  | .exited code =>
    let said := Act.debug .launcher s!"pid {pid.number} exited with {code}" asked.state
    ⟨.ok (.exited code), asked.written ++ said.written, said.state⟩
  | .signaled signal =>
    let said := Act.debug .launcher s!"pid {pid.number} killed by {signal.name}" asked.state
    ⟨.ok (.signaled signal), asked.written ++ said.written, said.state⟩
  | .failed errno =>
    if _he : errno = Errno.interrupted then
      let later := await pid (Host.wait pid host).state
      ⟨later.value, asked.written ++ later.written, later.state⟩
    else ⟨.error (.wait errno), asked.written, asked.state⟩
  | .alive =>
    let said := Act.debug .launcher "ignoring wait event StillAlive" asked.state
    let later := await pid (Host.wait pid host).state
    ⟨later.value, asked.written ++ said.written ++ later.written, later.state⟩
  | .changed event =>
    let said := Act.debug .launcher s!"ignoring wait event {event}" asked.state
    let later := await pid (Host.wait pid host).state
    ⟨later.value, asked.written ++ said.written ++ later.written, later.state⟩
termination_by Host.patience pid host
decreasing_by
  all_goals
    apply Host.patience_wait
    simp_all [WaitAnswer.isFinal]

/-- Launches a command and waits for its end, whether it has a background marker or not. -/
def run (cmd : Command) : Act σ (Except ProcessError Status) := do
  match ← spawn cmd with
  | .error e => pure (.error e)
  | .ok pid => await pid

end Child

end JobShell
