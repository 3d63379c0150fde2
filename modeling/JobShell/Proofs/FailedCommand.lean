import JobShell.Proofs.Errands
import JobShell.Proofs.Simulation
import JobShell.Reader.Scripted

/-!
# A command that fails

A launch can fail at three places: on a word that cannot be passed, before anything is started; when
the system refuses to start a child; and in waiting for the child (`Dispatcher.launch_error`).
Wherever it fails, the dispatcher is left as it was and no child is left over
(`Dispatcher.launch_error_children`), so the shell is left as it was and the loop goes on
(`Shell.failed_command_leaves_shell`).
-/

namespace JobShell

open ProcessHost (kernel)

variable {ρ σ ω : Type} [Host σ]

theorem Argv.of_ofCommand_error {cmd : Command} {word : String}
    (h : ofCommand cmd = .error word) : word ∈ cmd.arguments ∧ holdsNull word = true := by
  have hfound := ofCommand_eq_error_iff.mp h
  exact ⟨List.mem_of_find?_eq_some hfound, List.find?_some hfound⟩

namespace Child

/-- A child is not started because of a word that cannot be passed, or because it is refused. -/
theorem spawn_error {cmd : Command} {host : σ} {error : ProcessError}
    (h : (spawn cmd host).value = .error error) :
    (∃ word ∈ cmd.arguments, holdsNull word = true ∧ error = .invalidArgument word) ∨
      ∃ errno, error = .fork errno := by
  unfold spawn at h
  cases hargv : Argv.ofCommand cmd with
  | error word =>
    rw [hargv] at h
    cases h
    obtain ⟨hword, hnull⟩ := Argv.of_ofCommand_error hargv
    exact Or.inl ⟨word, hword, hnull, rfl⟩
  | ok argv =>
    rw [hargv] at h
    simp only [Act.bind_value, Act.ask_value] at h
    cases hpid : (Host.launch argv host).value with
    | error errno =>
      rw [hpid] at h
      cases h
      exact Or.inr ⟨errno, rfl⟩
    | ok pid =>
      rw [hpid] at h
      cases h

end Child

namespace Dispatcher

/-- Wherever a launch fails, the dispatcher is left as it was. -/
theorem launch_error {cmd : Command} {dispatcher : Dispatcher σ} {host : σ} {error : ProcessError}
    (h : (launch cmd dispatcher host).value.1 = .error error) :
    (launch cmd dispatcher host).value = (.error error, dispatcher) ∧
      ((∃ word ∈ cmd.arguments, holdsNull word = true ∧ error = .invalidArgument word) ∨
        (∃ errno, error = .fork errno) ∨ ∃ errno, error = .wait errno) := by
  rcases launch_value_cases cmd dispatcher host with
    ⟨failure, hspawned, hvalue⟩ | ⟨pid, -, ⟨-, hvalue⟩ | ⟨-, hvalue⟩⟩
  · rw [hvalue] at h ⊢
    obtain rfl : failure = error := Except.error.inj h
    refine ⟨rfl, ?_⟩
    rcases Child.spawn_error hspawned with hword | hfork
    · exact Or.inl hword
    · exact Or.inr (Or.inl hfork)
  · rw [hvalue] at h
    cases h
  · rw [hvalue] at h ⊢
    rcases Child.await_cases pid (attempt cmd host).state with
      ⟨code, hwaited⟩ | ⟨signal, hwaited⟩ | ⟨errno, hwaited⟩
    · rw [hwaited] at h
      cases h
    · rw [hwaited] at h
      cases h
    · rw [hwaited] at h ⊢
      cases h
      exact ⟨rfl, Or.inr (Or.inr ⟨errno, rfl⟩)⟩

/-- Only a launch fails. -/
theorem dispatch_error {cmd : Command} {state : ShellState} {dispatcher : Dispatcher σ} {host : σ}
    {error : ProcessError} (h : (dispatch cmd state dispatcher host).value.1 = .error error) :
    dispatcher.builtins.get? cmd.name = none ∧
      (launch cmd dispatcher host).value.1 = .error error := by
  cases hfound : dispatcher.builtins.get? cmd.name with
  | some registration =>
    obtain ⟨reply, -, hvalue, -⟩ := dispatch_called hfound state host
    rw [hvalue] at h
    cases h
  | none =>
    rw [(dispatch_launched hfound state host).1] at h
    exact ⟨rfl, h⟩

/-- No child is left over from a launch that failed.  One was started only if waiting for it
failed, which it did because the child was killed by a signal without a name. -/
theorem launch_error_children [ProcessHost σ] {cmd : Command} {dispatcher : Dispatcher σ} {host : σ}
    {error : ProcessError} (h : (launch cmd dispatcher host).value.1 = .error error) :
    let before := kernel host
    let after := kernel (launch cmd dispatcher host).state
    after.children = before.children ∧
      ((∀ errno, error ≠ .wait errno) → after.born = before.born) ∧
      (∀ errno, error = .wait errno → errno = Errno.invalid ∧ ∃ argv : Argv,
        argv.words = cmd.arguments ∧ after.born = before.born ++ [argv] ∧
          after.ending before.born.length = some .unnamed) := by
  intro before after
  rcases launch_cases cmd dispatcher host with
    ⟨failure, -, hwait, hpass, hvalue, hstate⟩ | ⟨argv, pid, -, hwords, hstart, hcase⟩
  · rw [hvalue] at h
    obtain rfl : failure = error := Except.error.inj h
    have hafter : after = kernel (attempt cmd host).state := congrArg kernel hstate
    rw [hafter]
    refine ⟨?_, fun _ => hpass.born, fun errno herrno => absurd herrno (hwait errno)⟩
    funext pid
    exact hpass.later.spared pid List.not_mem_nil
  · rcases hcase with ⟨-, hvalue, -⟩ | ⟨-, hvalue, hstate⟩
    · rw [hvalue] at h
      cases h
    · rw [hvalue] at h
      have hafter : after = kernel (Child.await pid (attempt cmd host).state).state :=
        congrArg kernel hstate
      rw [hafter]
      obtain ⟨hpos, hfree, hchild, hborn, hlater⟩ := hstart.starts_ok
      obtain ⟨hwaited, hsame, e, hended, hgone, hresult⟩ := Child.await_own hpos hchild
      have hunnamed : e = .unnamed ∧ error = .wait Errno.invalid := by
        have hfailed : e.result = .error error := hresult.symm.trans h
        cases e with
        | unnamed => exact ⟨rfl, (Except.error.inj hfailed).symm⟩
        | exited code => cases hfailed
        | signaled signal => cases hfailed
      obtain ⟨rfl, rfl⟩ := hunnamed
      refine ⟨?_, fun hwait => absurd rfl (hwait _), fun errno herrno => ?_⟩
      · have hspared := (hlater.trans hwaited).spare (hgone.trans hfree.symm)
        funext other
        exact hspared.spared other List.not_mem_nil
      · obtain rfl := ProcessError.wait.inj herrno
        exact ⟨rfl, argv, hwords, hsame.trans hborn, hended⟩

end Dispatcher

namespace Shell

/-- A command that failed leaves the shell as it was. -/
theorem execute_failed {cmd : Command} {shell : Shell ρ σ ω} {host : σ} {error : ProcessError}
    (h : (shell.dispatcher.dispatch cmd shell.state host).value.1 = .error error) :
    (execute cmd shell host).value = (none, shell) ∧
      (execute cmd shell host).state = (Dispatcher.launch cmd shell.dispatcher host).state := by
  obtain ⟨hfound, hlaunch⟩ := Dispatcher.dispatch_error h
  obtain ⟨hvalue, hstate⟩ := Dispatcher.dispatch_launched hfound shell.state host
  obtain ⟨hleft, -⟩ := Dispatcher.launch_error hlaunch
  rw [hleft] at hvalue
  unfold execute conclude
  simp only [Act.bind_value, Act.bind_state, hvalue, hstate]
  exact ⟨rfl, rfl⟩

variable [LineReader ρ]

/-- A round whose command fails leaves the shell that told of its jobs and read the line, and the
loop goes on from there. -/
theorem step_failed {line : String} {cmd : Command} {error : ProcessError} {start : Shell ρ σ}
    {begun : σ} (hgo : start.state.shouldExit = false) (hparse : Command.parse line = .ok cmd)
    (hread : (start.reading begun).answer = .line line)
    {shell : Shell ρ σ} {host : σ}
    (hshell : shell = { (reportFinishedJobs start begun).value with
      reader := (start.reading begun).rest })
    (hhost : host = (reportFinishedJobs start begun).state)
    (hfails : (shell.dispatcher.dispatch cmd shell.state host).value.1 = .error error) :
    let executed := executeLine line shell host
    (step start begun).value = (.ok (), shell) ∧ (step start begun).state = executed.state ∧
      (start.run begun).value = (shell.run executed.state).value ∧
      ∃ later, start.marks begun = .read (.line line) :: .dispatched cmd ::
        .read (shell.reading executed.state).answer :: later := by
  intro executed
  have hmoved : (reportFinishedJobs start begun).value.moved (start.reading begun).rest start.out =
      shell := by
    rw [hshell, ← out_reportFinishedJobs start begun]
    rfl
  have hexecuted : executed = execute cmd shell host :=
    congrFun (congrFun (executeLine_command hparse) shell) host
  have hstep : (step start begun).value = (.ok (), shell) ∧
      (step start begun).state = executed.state := by
    rw [step_eq, hread, hmoved, ← hhost, respond_command hparse, (execute_failed hfails).1,
      hexecuted]
    exact ⟨rfl, rfl⟩
  obtain ⟨hvalue, hstate⟩ := hstep
  have hok : (step start begun).value.1 = .ok () := congrArg (·.1) hvalue
  have hgoes : shell.state.shouldExit = false := by
    rw [hshell]
    show (reportFinishedJobs start begun).value.state.shouldExit = false
    rw [state_reportFinishedJobs, hgo]
  have horders : orders (.line line) start = [cmd] := by
    show (Command.parse line).toOption.toList = [cmd]
    rw [hparse]
    rfl
  obtain ⟨later, hlater⟩ := exists_rounds_eq_cons hgoes executed.state
  refine ⟨hvalue, hstate, by rw [run_of_step_ok hgo hok, hvalue, hstate], ?_⟩
  rw [marks_eq_rounds, rounds_of_step_ok hgo hok, hvalue, hstate, hlater, List.flatMap_cons,
    List.flatMap_cons, marks_markedStep, hread, horders, marks_markedStep]
  exact ⟨_, rfl⟩

/-- **A failed command leaves the shell as it was.**  A command whose dispatch fails has no status,
and its shell is left the same in every part.  It failed on a word with a null character, because no
child was started, or in waiting for its child; no child is left over, and in the first two cases
none was started; in the third it was killed by a signal without a name.  A loop in which it failed
goes on from that shell and reads the next line. -/
theorem failed_command_leaves_shell {line : String} {cmd : Command} {error : ProcessError}
    {shell : Shell ρ σ} {host : σ} (hparse : Command.parse line = .ok cmd)
    (hfails : (shell.dispatcher.dispatch cmd shell.state host).value.1 = .error error) :
    let executed := executeLine line shell host
    executed.value = (none, shell) ∧
    ((∃ word ∈ cmd.arguments, holdsNull word = true ∧ error = .invalidArgument word) ∨
      (∃ errno, error = .fork errno) ∨ ∃ errno, error = .wait errno) ∧
    (∀ [ProcessHost σ],
      let before := kernel host
      let after := kernel executed.state
      after.children = before.children ∧
        ((∀ errno, error ≠ .wait errno) → after.born = before.born) ∧
        (∀ errno, error = .wait errno → errno = Errno.invalid ∧ ∃ argv : Argv,
          argv.words = cmd.arguments ∧ after.born = before.born ++ [argv] ∧
            after.ending before.born.length = some .unnamed)) ∧
    (∀ (start : Shell ρ σ) (begun : σ), start.state.shouldExit = false →
      (start.reading begun).answer = .line line →
      shell = { (reportFinishedJobs start begun).value with
        reader := (start.reading begun).rest } →
      host = (reportFinishedJobs start begun).state →
      (step start begun).value = (.ok (), shell) ∧ (step start begun).state = executed.state ∧
        (start.run begun).value = (shell.run executed.state).value ∧
        ∃ later, start.marks begun = .read (.line line) :: .dispatched cmd ::
          .read (shell.reading executed.state).answer :: later) := by
  intro executed
  obtain ⟨hfound, hlaunch⟩ := Dispatcher.dispatch_error hfails
  obtain ⟨hvalue, hstate⟩ := execute_failed hfails
  have hexecuted : executed = execute cmd shell host :=
    congrFun (congrFun (executeLine_command hparse) shell) host
  refine ⟨?_, (Dispatcher.launch_error hlaunch).2, ?_, fun start begun hgo hread hshell hhost =>
    step_failed hgo hparse hread hshell hhost hfails⟩
  · rw [hexecuted, hvalue]
  · rw [hexecuted, hstate]
    intro _
    exact Dispatcher.launch_error_children hlaunch

/-- A system that starts no child. -/
def barren : Simulation := { numbers := [] }

/-- A new shell that is to start a job and then to exit. -/
def hopeful : Shell ScriptedReader Simulation :=
  Shell.new {} { answers := [.line "sleep 1 &", .line "exit 3"] }

/-- The same shell behind its first line. -/
def refused : Shell ScriptedReader Simulation :=
  { hopeful with reader := { answers := [.line "exit 3"] } }

theorem failed_command_leaves_shell_refused :
    (executeLine "sleep 1 &" refused barren).value = (none, refused) ∧
      (kernel (executeLine "sleep 1 &" refused barren).state).born = [] ∧
      ∃ later, hopeful.marks barren = .read (.line "sleep 1 &") ::
        .dispatched Simulation.sleeper :: .read (.line "exit 3") :: later := by
  have hparse : Command.parse "sleep 1 &" = .ok Simulation.sleeper := by cbv
  have hfails : (refused.dispatcher.dispatch Simulation.sleeper refused.state barren).value.1 =
      .error (.fork Simulation.noRoom) := by rfl
  obtain ⟨hleft, -, hchildren, hloop⟩ := failed_command_leaves_shell hparse hfails
  obtain ⟨-, -, -, hmarks⟩ := hloop hopeful barren rfl rfl rfl rfl
  obtain ⟨-, hborn, -⟩ := hchildren
  exact ⟨hleft, hborn fun errno => ProcessError.noConfusion, hmarks⟩

end Shell

end JobShell
