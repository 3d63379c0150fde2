import JobShell.Shell.Run

/-!
# The read loop, round by round

`Shell.runWithin` is the read loop cut off after a number of rounds.  Where it has ended within that
number it is the whole loop (`run_of_runWithin`).  `Shell.rounds` lists the rounds of a run, and
what is to be shown of every run is shown round by round (`run_induction`).
-/

namespace JobShell

namespace Shell

variable {ρ σ ω : Type} [Host σ]

/-- Leaves the loop with the exit code. -/
def finish (shell : Shell ρ σ ω) : Act σ (Except ShellError Int × Shell ρ σ ω) := do
  Act.debug .readLoop s!"leaving read loop with code {shell.state.exitCode}"
  pure (.ok shell.state.exitCode, shell)

variable [LineReader ρ] [Writer ω]

/-- The loop cut off after so many rounds; `none` if it goes on. -/
def runWithin : Nat → Shell ρ σ ω → Act σ (Option (Except ShellError Int × Shell ρ σ ω))
  | 0, shell => if shell.state.shouldExit then some <$> finish shell else pure none
  | rounds + 1, shell =>
    if shell.state.shouldExit then some <$> finish shell
    else do
      let taken ← step shell
      match taken.1 with
      | .error error => pure (some (.error error, taken.2))
      | .ok () => runWithin rounds taken.2

theorem runWithin_of_shouldExit {shell : Shell ρ σ ω} (h : shell.state.shouldExit = true)
    (rounds : Nat) : runWithin rounds shell = some <$> finish shell := by
  cases rounds <;> rw [runWithin, if_pos h]

theorem runWithin_succ {shell : Shell ρ σ ω} (h : shell.state.shouldExit = false) (rounds : Nat) :
    runWithin (rounds + 1) shell = (do
      let taken ← step shell
      match taken.1 with
      | .error error => pure (some (.error error, taken.2))
      | .ok () => runWithin rounds taken.2) := by
  rw [runWithin, if_neg (by rw [h]; exact Bool.false_ne_true)]

theorem runWithin_of_step_ok {rounds : Nat} {shell next : Shell ρ σ ω} {host : σ}
    (h : shell.state.shouldExit = false) (hstep : (step shell host).value = (.ok (), next)) :
    runWithin (rounds + 1) shell host =
      ⟨(runWithin rounds next (step shell host).state).value,
        (step shell host).written ++ (runWithin rounds next (step shell host).state).written,
        (runWithin rounds next (step shell host).state).state⟩ := by
  rw [runWithin_succ h]
  show Outcome.mk _ _ _ = _
  rw [hstep]

theorem run_of_shouldExit {shell : Shell ρ σ ω} (h : shell.state.shouldExit = true) (host : σ) :
    run shell host = finish shell host := by
  rw [run, dif_pos h]
  rfl

/-- A loop that is to end needs no round. -/
theorem runWithin_eq_run {shell : Shell ρ σ ω} (h : shell.state.shouldExit = true) (rounds : Nat)
    (host : σ) : runWithin rounds shell host =
      ⟨some (run shell host).value, (run shell host).written, (run shell host).state⟩ := by
  rw [runWithin_of_shouldExit h, run_of_shouldExit h]
  rfl

theorem run_of_step_error {shell : Shell ρ σ ω} {host : σ} {error : ShellError}
    (h : shell.state.shouldExit = false) (hstep : (step shell host).value.1 = .error error) :
    run shell host = ⟨(.error error, (step shell host).value.2), (step shell host).written,
      (step shell host).state⟩ := by
  rw [run, dif_neg (by rw [h]; exact Bool.false_ne_true)]
  simp only
  split
  · rename_i other hother
    rw [hstep] at hother
    cases hother
    rfl
  · rename_i hok
    rw [hstep] at hok
    cases hok

theorem run_of_step_ok {shell : Shell ρ σ ω} {host : σ} (h : shell.state.shouldExit = false)
    (hstep : (step shell host).value.1 = .ok ()) :
    run shell host = ⟨(run (step shell host).value.2 (step shell host).state).value,
      (step shell host).written ++ (run (step shell host).value.2 (step shell host).state).written,
      (run (step shell host).value.2 (step shell host).state).state⟩ := by
  rw [run, dif_neg (by rw [h]; exact Bool.false_ne_true)]
  simp only
  split
  · rename_i error herror
    rw [hstep] at herror
    cases herror
  · rfl

/-- A loop that has ended within some rounds is the whole loop. -/
theorem run_of_runWithin {rounds : Nat} {shell : Shell ρ σ ω} {host : σ}
    {result : Except ShellError Int × Shell ρ σ ω}
    (h : (runWithin rounds shell host).value = some result) :
    run shell host =
      ⟨result, (runWithin rounds shell host).written, (runWithin rounds shell host).state⟩ := by
  induction rounds generalizing shell host with
  | zero =>
    cases hexit : shell.state.shouldExit with
    | true =>
      rw [runWithin_eq_run hexit] at h ⊢
      cases h
      rfl
    | false =>
      rw [runWithin, if_neg (by rw [hexit]; exact Bool.false_ne_true)] at h
      cases h
  | succ rounds ih =>
    cases hexit : shell.state.shouldExit with
    | true =>
      rw [runWithin_eq_run hexit] at h ⊢
      cases h
      rfl
    | false =>
      rw [runWithin_succ hexit] at h ⊢
      simp only [Act.bind_value, Act.bind_written, Act.bind_state] at h ⊢
      cases hstep : (step shell host).value.1 with
      | error error =>
        rw [hstep] at h
        cases h
        rw [run_of_step_error hexit hstep]
        show _ = Outcome.mk _ ((step shell host).written ++ []) _
        rw [List.append_nil]
        rfl
      | ok _ =>
        rw [hstep] at h
        rw [run_of_step_ok hexit hstep, ih h]

/-! ## The rounds of a run -/

/-- A step that neither fails nor ends the loop leaves fewer rounds to make. -/
theorem roundsLeft_step_lt {shell : Shell ρ σ ω} {host : σ} (h : shell.state.shouldExit = false)
    (hstep : (step shell host).value.1 = .ok ()) :
    roundsLeft (step shell host).value.2 < roundsLeft shell := by
  have hleft : roundsLeft shell = LineReader.linesLeft shell.reader + 1 := by
    simp [roundsLeft, h]
  rw [hleft]
  unfold roundsLeft
  split
  · exact Nat.succ_pos _
  · rename_i hgo
    have hread := step_progress hstep (by simpa using hgo)
    omega

omit [Host σ] [Writer ω] in
theorem shouldExit_of_roundsLeft {shell : Shell ρ σ ω} (h : roundsLeft shell ≤ 0) :
    shell.state.shouldExit = true := by
  unfold roundsLeft at h
  split at h
  · assumption
  · omega

/-- The shells with which the rounds of a run begin, each with its host. -/
def rounds (shell : Shell ρ σ ω) (host : σ) : List (Shell ρ σ ω × σ) :=
  if _hexit : shell.state.shouldExit then []
  else
    match _hstep : (step shell host).value.1 with
    | .error _ => [(shell, host)]
    | .ok () => (shell, host) :: rounds (step shell host).value.2 (step shell host).state
termination_by roundsLeft shell
decreasing_by exact roundsLeft_step_lt (by simpa using _hexit) _hstep

theorem rounds_of_shouldExit {shell : Shell ρ σ ω} (h : shell.state.shouldExit = true) (host : σ) :
    rounds shell host = [] := by
  rw [rounds, dif_pos h]

theorem rounds_of_step_error {shell : Shell ρ σ ω} {host : σ} {error : ShellError}
    (h : shell.state.shouldExit = false) (hstep : (step shell host).value.1 = .error error) :
    rounds shell host = [(shell, host)] := by
  rw [rounds, dif_neg (by rw [h]; exact Bool.false_ne_true)]
  split
  · rfl
  · rename_i hok
    rw [hstep] at hok
    cases hok

theorem rounds_of_step_ok {shell : Shell ρ σ ω} {host : σ} (h : shell.state.shouldExit = false)
    (hstep : (step shell host).value.1 = .ok ()) : rounds shell host =
      (shell, host) :: rounds (step shell host).value.2 (step shell host).state := by
  rw [rounds, dif_neg (by rw [h]; exact Bool.false_ne_true)]
  split
  · rename_i error herror
    rw [hstep] at herror
    cases herror
  · rfl

/-- The rounds of a run that is not to end begin with its shell and its host. -/
theorem exists_rounds_eq_cons {shell : Shell ρ σ ω} (h : shell.state.shouldExit = false)
    (host : σ) : ∃ later, shell.rounds host = (shell, host) :: later := by
  cases hstep : (step shell host).value.1 with
  | error error => exact ⟨[], rounds_of_step_error h hstep⟩
  | ok _ => exact ⟨_, rounds_of_step_ok h hstep⟩

/-- What holds of a run that is to end, of one whose first step fails, and of one whose first step
goes on with a run of which it holds, holds of every run. -/
theorem run_induction {motive : Shell ρ σ ω → σ → Prop}
    (exit : ∀ shell host, shell.state.shouldExit = true → motive shell host)
    (error : ∀ shell host error, shell.state.shouldExit = false →
      (step shell host).value.1 = .error error → motive shell host)
    (go : ∀ shell host, shell.state.shouldExit = false → (step shell host).value.1 = .ok () →
      motive (step shell host).value.2 (step shell host).state → motive shell host)
    (shell : Shell ρ σ ω) (host : σ) : motive shell host := by
  induction hn : roundsLeft shell using Nat.strongRecOn generalizing shell host with
  | _ n ih =>
    cases hexit : shell.state.shouldExit with
    | true => exact exit shell host hexit
    | false =>
      cases hstep : (step shell host).value.1 with
      | error e => exact error shell host e hexit hstep
      | ok _ =>
        have hlt := roundsLeft_step_lt hexit hstep
        rw [hn] at hlt
        exact go shell host hexit hstep (ih _ hlt _ _ rfl)

/-- What every step keeps holds at the beginning of each round. -/
theorem forall_rounds (kept : Shell ρ σ ω → Prop)
    (hstep : ∀ {shell} host, kept shell → kept (step shell host).value.2) {shell : Shell ρ σ ω}
    (h : kept shell) (host : σ) : ∀ round ∈ shell.rounds host, kept round.1 := by
  induction shell, host using run_induction with
  | exit shell host hexit =>
    rw [rounds_of_shouldExit hexit]
    exact fun _ hround => absurd hround List.not_mem_nil
  | error shell host error hgo hfailed =>
    rw [rounds_of_step_error hgo hfailed]
    exact fun round hround => List.mem_singleton.mp hround ▸ h
  | go shell host hgo hok ih =>
    rw [rounds_of_step_ok hgo hok]
    exact List.forall_mem_cons.mpr ⟨h, ih (hstep host h)⟩

end Shell

end JobShell
