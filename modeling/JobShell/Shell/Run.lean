import JobShell.Shell

/-!
Running the read loop to its end.

A step that neither fails nor ends the loop has taken a line from the reader (`step_progress`), and
a reader holds finitely many, so `run` ends.
-/

namespace JobShell

namespace Shell

variable {ρ σ ω : Type} [Host σ]

theorem reader_conclude (name : String) (result : Except ProcessError Status)
    (shell : Shell ρ σ ω) (host : σ) :
    (conclude name result shell host).value.2.reader = shell.reader := by
  cases result <;> rfl

theorem reader_executeLine (line : String) (shell : Shell ρ σ ω) (host : σ) :
    (executeLine line shell host).value.2.reader = shell.reader := by
  unfold executeLine
  cases Command.parse line with
  | error e => rfl
  | ok cmd => exact reader_conclude _ _ _ _

theorem reader_reportFinishedJobs (shell : Shell ρ σ ω) (host : σ) :
    (reportFinishedJobs shell host).value.reader = shell.reader := by
  unfold reportFinishedJobs
  cases shell.isQuiet <;> rfl

theorem reader_leave (shell : Shell ρ σ ω) (host : σ) :
    (leave shell host).value.reader = shell.reader := by
  unfold leave
  cases shell.dispatcher.builtins.isBuiltin exitCommand with
  | false => rfl
  | true => exact reader_executeLine _ _ _

theorem reader_leaveAfter (echoed : Except ShellError Unit) (shell : Shell ρ σ ω) (host : σ) :
    (leaveAfter echoed shell host).value.2.reader = shell.reader := by
  cases echoed with
  | error e => rfl
  | ok u => exact reader_leave _ _

theorem shouldExit_leave (shell : Shell ρ σ ω) (host : σ) :
    (leave shell host).value.state.shouldExit = true := by
  unfold leave
  cases shell.dispatcher.builtins.isBuiltin exitCommand <;> rfl

variable [Writer ω]

theorem reader_respond (answer : ReadAnswer) (shell : Shell ρ σ ω) (host : σ) :
    (respond answer shell host).value.2.reader = shell.reader := by
  cases answer with
  | line line =>
    simp only [respond]
    cases line.isEmpty with
    | true => rfl
    | false => exact reader_executeLine _ _ _
  | closed => exact reader_leaveAfter _ _ _
  | failed error => rfl

/-- Unless a line was read, a step that does not fail leaves the shell about to end. -/
theorem shouldExit_respond {answer : ReadAnswer} (shell : Shell ρ σ ω) (host : σ)
    (hline : ∀ text, answer ≠ .line text) (hok : (respond answer shell host).value.1 = .ok ()) :
    (respond answer shell host).value.2.state.shouldExit = true := by
  cases answer with
  | line line => exact absurd rfl (hline line)
  | failed error => rfl
  | closed =>
    simp only [respond, Act.bind_value] at hok ⊢
    cases hw : (echoExit shell host).value.1 with
    | error e => rw [hw] at hok; cases hok
    | ok u => exact shouldExit_leave _ _

variable [LineReader ρ]

/-- A step that neither fails nor ends the loop has taken a line. -/
theorem step_progress {shell : Shell ρ σ ω} {host : σ}
    (hok : (step shell host).value.1 = .ok ())
    (hgo : (step shell host).value.2.state.shouldExit = false) :
    LineReader.linesLeft (step shell host).value.2.reader < LineReader.linesLeft shell.reader := by
  unfold step at hok hgo ⊢
  simp only [Act.bind_value] at hok hgo ⊢
  rw [reader_respond]
  generalize (reportFinishedJobs shell host).state = mid at hok hgo ⊢
  have hreader := reader_reportFinishedJobs shell host
  generalize (reportFinishedJobs shell host).value = before at hok hgo hreader ⊢
  by_cases hline : ∃ text, (readLine before mid).value.1 = .line text
  · obtain ⟨text, htext⟩ := hline
    rw [← hreader]
    exact LineReader.linesLeft_read htext
  · have := shouldExit_respond _ _ (fun text h => hline ⟨text, h⟩) hok
    rw [hgo] at this
    cases this

/-- The number of rounds that the loop still makes at most. -/
def roundsLeft (shell : Shell ρ σ ω) : Nat :=
  if shell.state.shouldExit then 0 else LineReader.linesLeft shell.reader + 1

/-- Takes steps until the shell is to end or a step fails; gives the exit code. -/
def run (shell : Shell ρ σ ω) (host : σ) :
    Outcome Entry σ (Except ShellError Int × Shell ρ σ ω) :=
  if _hgo : shell.state.shouldExit then
    let code := shell.state.exitCode
    let said := Act.debug .readLoop s!"leaving read loop with code {code}" host
    ⟨(.ok code, shell), said.written, said.state⟩
  else
    let taken := step shell host
    match _hok : taken.value.1 with
    | .error error => ⟨(.error error, taken.value.2), taken.written, taken.state⟩
    | .ok () =>
      let later := run taken.value.2 taken.state
      ⟨later.value, taken.written ++ later.written, later.state⟩
termination_by roundsLeft shell
decreasing_by
  simp only [roundsLeft, _hgo]
  split
  · simp
  · rename_i hgo'
    have := step_progress _hok (by simpa using hgo')
    simpa using this

end Shell

end JobShell
