import JobShell.Proofs.Errands

/-!
# What may be asked of a shell

A shell is used by calls: to take a step or to run its loop, to run a line, to end, to have signals
caught (`Shell.Call`), in any order and any number.  What the parts of a round keep is kept by every
sequence of calls (`Shell.Kept.calls`).
-/

namespace JobShell

namespace Shell

variable {ρ σ ω : Type} [Host σ]

/-- Something that is asked of a shell from outside. -/
inductive Call
  | step
  | run
  | executeLine (line : String)
  | runCommand (line : String)
  | requestExit
  | installSignalHandlers
  deriving DecidableEq, Repr

/-- What a call gives back. -/
inductive Returned
  /-- A step or the catching of signals went well or failed. -/
  | went (result : Except ShellError Unit)
  | ran (result : Except ShellError Int)
  | executed (status : Option Status)
  | commanded (code : Int)
  | requested

variable [LineReader ρ] [Writer ω]

def call : Call → Shell ρ σ ω → Act σ (Returned × Shell ρ σ ω)
  | .step, shell => do
    let taken ← step shell
    pure (.went taken.1, taken.2)
  | .run, shell => do
    let looped ← run shell
    pure (.ran looped.1, looped.2)
  | .executeLine line, shell => do
    let executed ← executeLine line shell
    pure (.executed executed.1, executed.2)
  | .runCommand line, shell => do
    let commanded ← runCommand line shell
    pure (.commanded commanded.1, commanded.2)
  | .requestExit, shell => pure (.requested, shell.requestExit)
  | .installSignalHandlers, shell => do
    let installed ← installSignalHandlers shell
    pure (.went installed.1, installed.2)

/-- Makes calls one after the other. -/
def calls : List Call → Shell ρ σ ω → Act σ (List Returned × Shell ρ σ ω)
  | [], shell => pure ([], shell)
  | first :: rest, shell => do
    let called ← call first shell
    let later ← calls rest called.2
    pure (called.1 :: later.1, later.2)

omit [LineReader ρ] [Writer ω] in
/-- Catching signals leaves all of a shell but how it learns of its children. -/
theorem value_installSignalHandlers (shell : Shell ρ σ ω) (host : σ) :
    ∃ signalDriven, (installSignalHandlers shell host).value.2 = { shell with
      dispatcher := { shell.dispatcher with
        jobs := { shell.dispatcher.jobs with signalDriven } } } := by
  unfold installSignalHandlers
  rw [Act.bind_value, Act.ask_value]
  cases (Host.catchInterrupts host).value with
  | error text => exact ⟨shell.dispatcher.jobs.signalDriven, rfl⟩
  | ok _ =>
    simp only [Act.bind_value, Act.pure_apply, JobTable.watch_value]
    cases (Host.watchChildren (Act.ask Host.catchInterrupts host).state).value with
    | error text => exact ⟨shell.dispatcher.jobs.signalDriven, rfl⟩
    | ok _ => exact ⟨true, rfl⟩

/-! ## What every call keeps -/

/-- The parts of a round, and what may be asked beside, keep a property of shells. -/
structure Kept (kept : Shell ρ σ ω → Prop) : Prop where
  execute : ∀ {shell} cmd host, kept shell → kept (execute cmd shell host).value.2
  report : ∀ {shell} host, kept shell → kept (reportFinishedJobs shell host).value
  moved : ∀ {shell} reader out, kept shell → kept (shell.moved reader out)
  requestExit : ∀ {shell}, kept shell → kept shell.requestExit
  install : ∀ {shell} host, kept shell → kept (installSignalHandlers shell host).value.2

namespace Kept

variable {kept : Shell ρ σ ω → Prop} (h : Kept kept) {shell : Shell ρ σ ω} (hkept : kept shell)

include h hkept

omit [LineReader ρ] [Writer ω] in
theorem executeLine (line : String) (host : σ) :
    kept (executeLine line shell host).value.2 := by
  cases hparse : Command.parse line with
  | error e =>
    rw [executeLine_blank hparse]
    exact hkept
  | ok cmd =>
    rw [executeLine_command hparse]
    exact h.execute cmd host hkept

omit [LineReader ρ] [Writer ω] in
theorem runCommand (line : String) (host : σ) : kept (runCommand line shell host).value.2 := by
  unfold Shell.runCommand
  split
  · exact hkept
  · exact h.executeLine hkept line host

omit [LineReader ρ] [Writer ω] in
theorem leave (host : σ) : kept (leave shell host).value := by
  unfold Shell.leave
  split
  · exact h.requestExit (h.executeLine hkept _ host)
  · exact h.requestExit hkept

omit [LineReader ρ] in
theorem respond (answer : ReadAnswer) (host : σ) : kept (respond answer shell host).value.2 := by
  cases answer with
  | line line =>
    simp only [Shell.respond]
    split
    · exact hkept
    · exact h.executeLine hkept line host
  | failed error => exact h.requestExit hkept
  | closed =>
    have hechoed : kept (echoExit shell host).value.2 := h.moved shell.reader _ hkept
    show kept (leaveAfter (echoExit shell host).value.1 (echoExit shell host).value.2 _).value.2
    cases (echoExit shell host).value.1 with
    | error error => exact hechoed
    | ok _ => exact h.leave hechoed _

theorem step (host : σ) : kept (step shell host).value.2 := by
  rw [step_eq]
  exact h.respond (h.moved _ _ (h.report host hkept)) _ _

theorem run (host : σ) : kept (run shell host).value.2 := by
  induction shell, host using run_induction with
  | exit shell host hexit =>
    rw [run_of_shouldExit hexit]
    exact hkept
  | error shell host error hgo hstep =>
    rw [run_of_step_error hgo hstep]
    exact h.step hkept host
  | go shell host hgo hstep ih =>
    rw [run_of_step_ok hgo hstep]
    exact ih (h.step hkept host)

theorem rounds (host : σ) : ∀ round ∈ shell.rounds host, kept round.1 :=
  forall_rounds kept (fun host hkept => h.step hkept host) hkept host

theorem call (asked : Call) (host : σ) : kept (call asked shell host).value.2 := by
  cases asked with
  | step => exact h.step hkept host
  | run => exact h.run hkept host
  | executeLine line => exact h.executeLine hkept line host
  | runCommand line => exact h.runCommand hkept line host
  | requestExit => exact h.requestExit hkept
  | installSignalHandlers => exact h.install host hkept

/-- What the parts of a round keep is kept by every sequence of calls. -/
theorem calls (asked : List Call) (host : σ) : kept (calls asked shell host).value.2 := by
  induction asked generalizing shell host with
  | nil => exact hkept
  | cons first rest ih => exact ih (h.call hkept first host) _

end Kept

end Shell

end JobShell
