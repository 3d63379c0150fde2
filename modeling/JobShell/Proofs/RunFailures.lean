import JobShell.Proofs.FailedCommand

/-!
# How a run can fail

The loop meets three kinds of failure.  A command that does not come to run is reported, and the
loop goes on (`Shell.rounds_unrun`); a read that fails ends it with the exit code that is held
(`Shell.run_unread`); and only an echo that cannot be written, or not handed on, makes the run
itself fail (`Shell.run_error_iff`).  A round that ends the loop in one of these ways is idle: it
calls no built-in and does nothing to its host but to reap finished jobs.  A round within a run is
the first of a shorter run (`Shell.run_behind`), so all of this holds of every round
(`Shell.run_fails_for_its_echo`).
-/

namespace JobShell

namespace Shell

variable {ρ σ ω : Type} [Host σ]

/-! ## One round -/

theorem out_executeLine (line : String) (shell : Shell ρ σ ω) (host : σ) :
    (executeLine line shell host).value.2.out = shell.out := by
  unfold executeLine
  cases Command.parse line with
  | error _ => rfl
  | ok cmd => exact congrArg (·.value.2.out) (execute_moved cmd shell shell.reader shell.out host)

section

variable [Writer ω] {shell : Shell ρ σ ω} {host : σ}

theorem respond_refused {error : IoError}
    (h : (Writer.deliver farewell shell.out).result = .error error) :
    respond .closed shell host =
      ⟨(.error (.io error), { shell with out := (Writer.deliver farewell shell.out).rest }),
        [.echo (Writer.deliver farewell shell.out).taken], host⟩ := by
  simp only [respond, Act.bind_apply, echoExit_eq, h]
  rfl

/-- Only the end of the input can make a response fail, and only by its echo. -/
theorem respond_error_iff (answer : ReadAnswer) :
    (∃ error, (respond answer shell host).value.1 = .error error) ↔
      answer = .closed ∧ ∃ error, (Writer.deliver farewell shell.out).result = .error error := by
  constructor
  · rintro ⟨error, h⟩
    cases answer with
    | line line =>
      simp only [respond] at h
      split at h <;> cases h
    | failed error => cases h
    | closed =>
      cases hechoed : (Writer.deliver farewell shell.out).result with
      | error error => exact ⟨rfl, error, rfl⟩
      | ok _ =>
        simp only [respond, Act.bind_value, echoExit_eq, hechoed] at h
        cases h
  · rintro ⟨rfl, error, hrefused⟩
    exact ⟨_, by rw [respond_refused hrefused]⟩

variable [LineReader ρ]

theorem step_error_iff : (∃ error, (step shell host).value.1 = .error error) ↔
    (shell.reading host).answer = .closed ∧
      ∃ error, (Writer.deliver farewell shell.out).result = .error error := by
  rw [step_eq]
  exact respond_error_iff _

/-- A round after which the loop goes on has left the writer alone. -/
theorem out_step (hok : (step shell host).value.1 = .ok ())
    (hgo : (step shell host).value.2.state.shouldExit = false) :
    (step shell host).value.2.out = shell.out := by
  rw [step_eq] at hok hgo ⊢
  simp only at hok hgo ⊢
  cases hanswer : (shell.reading host).answer with
  | line line =>
    simp only [respond]
    split
    · rfl
    · exact out_executeLine _ _ _
  | closed =>
    rw [hanswer] at hok hgo
    rw [shouldExit_respond _ _ (fun _ => ReadAnswer.noConfusion) hok] at hgo
    cases hgo
  | failed error => rfl

/-- A round that meets the end of the input and cannot echo it ends there. -/
theorem step_refused {error : IoError} (hclosed : (shell.reading host).answer = .closed)
    (hrefused : (Writer.deliver farewell shell.out).result = .error error) :
    let told := reportFinishedJobs shell host
    let reading := shell.reading host
    let delivered := Writer.deliver farewell shell.out
    step shell host = ⟨(.error (.io error), told.value.moved reading.rest delivered.rest),
      told.written ++ [.prompt reading.shown, .echo delivered.taken], told.state⟩ := by
  rw [step_eq, hclosed]
  simp only [respond_refused
    (show (Writer.deliver farewell ((reportFinishedJobs shell host).value.moved
      (shell.reading host).rest shell.out).out).result = .error error from hrefused)]
  rfl

/-- A round whose read fails warns of it, reports it and requests an exit. -/
theorem step_unread {error : ShellError} (hfailed : (shell.reading host).answer = .failed error) :
    let told := reportFinishedJobs shell host
    let reading := shell.reading host
    let warned := Act.warn .readLoop s!"read failed: {error.message}" told.state
    step shell host = ⟨(.ok (), (told.value.moved reading.rest shell.out).requestExit),
      told.written ++ .prompt reading.shown :: (warned.written ++ [.failure error.message]),
      told.state⟩ := by
  rw [step_eq, hfailed]
  rfl

/-- A round whose line does not come to a status leaves the shell that has read the line. -/
theorem step_unrun {line : String} (hline : (shell.reading host).answer = .line line)
    (hunrun : Command.parse line = .error .empty ∨ ∃ cmd error, Command.parse line = .ok cmd ∧
      ((reportFinishedJobs shell host).value.dispatcher.dispatch cmd shell.state
        (reportFinishedJobs shell host).state).value.1 = .error error) :
    (step shell host).value = (.ok (),
      (reportFinishedJobs shell host).value.moved (shell.reading host).rest shell.out) := by
  rw [step_eq, hline]
  simp only [respond]
  split
  · rfl
  · rcases hunrun with hblank | ⟨cmd, error, hparse, hfails⟩
    · rw [executeLine_blank hblank]
      rfl
    · rw [← state_reportFinishedJobs shell host] at hfails
      simp only [executeLine_command hparse, Act.bind_value, Act.pure_apply, execute_moved,
        (execute_failed hfails).1]

end

/-- A round that calls no built-in and does nothing to its host but to reap finished jobs. -/
structure Idle [Writer ω] [LineReader ρ] (shell : Shell ρ σ ω) (host : σ) : Prop where
  reaps : (step shell host).state = (shell.dispatcher.reapFinished host).state
  keeps : (step shell host).value.2.dispatcher =
    (shell.dispatcher.reapFinished host).value.2
  callsNone : (step shell host).value.2.dispatcher.builtins = shell.dispatcher.builtins

/-! ## The rounds of a run -/

variable [Writer ω] [LineReader ρ]

/-- A round that leaves its host and its dispatcher as telling of the finished jobs left them is
idle. -/
theorem idle_of_told {shell : Shell ρ σ ω} {host : σ}
    (hstate : (step shell host).state = (reportFinishedJobs shell host).state)
    (hkept : (step shell host).value.2.dispatcher =
      (reportFinishedJobs shell host).value.dispatcher) : shell.Idle host where
  reaps := hstate.trans (host_reportFinishedJobs shell host)
  keeps := hkept.trans (congrArg (·.dispatcher) (value_reportFinishedJobs shell host))
  callsNone := by rw [hkept, builtins_reportFinishedJobs]

/-- A run fails exactly if one of its rounds meets the end of the input and its echo fails. -/
theorem run_error_iff (shell : Shell ρ σ ω) (host : σ) :
    (∃ error, (shell.run host).value.1 = .error error) ↔ ∃ round ∈ shell.rounds host,
      (round.1.reading round.2).answer = .closed ∧
        ∃ error, (Writer.deliver farewell round.1.out).result = .error error := by
  induction shell, host using run_induction with
  | exit shell host hexit =>
    rw [run_of_shouldExit hexit, rounds_of_shouldExit hexit]
    exact iff_of_false nofun (fun ⟨_, hround, _⟩ => absurd hround List.not_mem_nil)
  | error shell host error hgo hstep =>
    rw [run_of_step_error hgo hstep, rounds_of_step_error hgo hstep]
    have hrefused := step_error_iff.mp ⟨error, hstep⟩
    exact iff_of_true ⟨error, rfl⟩ ⟨_, List.mem_singleton_self _, hrefused⟩
  | go shell host hgo hok ih =>
    have hhead : ¬((shell.reading host).answer = .closed ∧
        ∃ error, (Writer.deliver farewell shell.out).result = .error error) := by
      rw [← step_error_iff, hok]
      exact nofun
    rw [run_of_step_ok hgo hok, rounds_of_step_ok hgo hok]
    simp only [List.mem_cons, exists_eq_or_imp, hhead, false_or]
    exact ih

theorem shouldExit_of_rounds_ne_nil {shell : Shell ρ σ ω} {host : σ}
    (h : shell.rounds host ≠ []) : shell.state.shouldExit = false := by
  cases hexit : shell.state.shouldExit with
  | true => exact absurd (rounds_of_shouldExit hexit host) h
  | false => rfl

/-- Behind some of its rounds a run is that of the next round's shell, whose writer is still as it
was. -/
theorem run_behind {shell start : Shell ρ σ ω} {host begun : σ}
    {before after : List (Shell ρ σ ω × σ)}
    (h : shell.rounds host = before ++ (start, begun) :: after) :
    start.out = shell.out ∧ start.rounds begun = (start, begun) :: after ∧
      (shell.run host).value = (start.run begun).value ∧
      (shell.run host).state = (start.run begun).state ∧
      ∃ earlier, (shell.run host).written = earlier ++ (start.run begun).written := by
  induction before generalizing shell host with
  | nil =>
    have hgo := shouldExit_of_rounds_ne_nil (h.trans_ne (List.cons_ne_nil _ _))
    obtain ⟨later, hlater⟩ := exists_rounds_eq_cons hgo host
    have hfirst : (shell, host) = (start, begun) := by
      rw [hlater] at h
      exact (List.cons.inj h).1
    cases hfirst
    exact ⟨rfl, h, rfl, rfl, [], rfl⟩
  | cons round before ih =>
    have hgo := shouldExit_of_rounds_ne_nil (h.trans_ne (List.cons_ne_nil _ _))
    cases hstep : (step shell host).value.1 with
    | error error =>
      rw [rounds_of_step_error hgo hstep] at h
      have hlater := (List.cons.inj h).2
      exact absurd hlater.symm (List.append_ne_nil_of_right_ne_nil _ (List.cons_ne_nil _ _))
    | ok _ =>
      rw [rounds_of_step_ok hgo hstep] at h
      have hlater := (List.cons.inj h).2
      -- a round follows, so the step before it has read a line and echoed nothing
      have hnext := shouldExit_of_rounds_ne_nil
        (hlater.trans_ne (List.append_ne_nil_of_right_ne_nil _ (List.cons_ne_nil _ _)))
      obtain ⟨hout, hrounds, hvalue, hstate, earlier, hwritten⟩ := ih hlater
      rw [run_of_step_ok hgo hstep]
      refine ⟨hout.trans (out_step hstep hnext), hrounds, hvalue, hstate,
        (step shell host).written ++ earlier, ?_⟩
      rw [hwritten, List.append_assoc]

/-! ## A run whose first round fails -/

section

variable {shell : Shell ρ σ ω} {host : σ} (hgo : shell.state.shouldExit = false)

include hgo

/-- An echo that is refused makes the run fail with the round. -/
theorem run_refused_echo {error : IoError} (hclosed : (shell.reading host).answer = .closed)
    (hrefused : (Writer.deliver farewell shell.out).result = .error error) :
    let made := step shell host
    shell.rounds host = [(shell, host)] ∧
      (shell.run host).value = (.error (.io error), made.value.2) ∧
      (shell.run host).state = made.state ∧ shell.Idle host ∧ made.value.2.state = shell.state := by
  intro made
  have hmade : made = _ := step_refused hclosed hrefused
  have hstep : made.value.1 = .error (.io error) := by rw [hmade]
  rw [run_of_step_error hgo hstep]
  refine ⟨rounds_of_step_error hgo hstep, rfl, rfl, idle_of_told ?_ ?_, ?_⟩
  · exact congrArg (·.state) hmade
  · exact congrArg (·.value.2.dispatcher) hmade
  · rw [hmade]
    exact state_reportFinishedJobs shell host

/-- A read that fails ends the run with the exit code that is held. -/
theorem run_unread {error : ShellError} (hfailed : (shell.reading host).answer = .failed error) :
    let made := step shell host
    shell.rounds host = [(shell, host)] ∧
      shell.run host = ⟨(.ok shell.state.exitCode, made.value.2),
        made.written ++ (finish made.value.2 made.state).written, made.state⟩ ∧
      shell.Idle host ∧ made.value.2.state = { shell.state with shouldExit := true } ∧
      made.value.2.out = shell.out ∧ echoed made.written = [] := by
  intro made
  have hmade : made = _ := step_unread hfailed
  have hstep : made.value.1 = .ok () := by rw [hmade]
  have hleft : made.value.2.state = { shell.state with shouldExit := true } := by
    rw [hmade]
    exact congrArg ShellState.requestExit (state_reportFinishedJobs shell host)
  have hexit : made.value.2.state.shouldExit = true := by rw [hleft]
  have hcode : made.value.2.state.exitCode = shell.state.exitCode := by rw [hleft]
  refine ⟨?_, ?_, idle_of_told ?_ ?_, hleft, ?_, ?_⟩
  · rw [rounds_of_step_ok hgo hstep, rounds_of_shouldExit hexit]
  · rw [run_of_step_ok hgo hstep, run_of_shouldExit hexit, ← hcode]
    rfl
  · exact congrArg (·.state) hmade
  · exact congrArg (·.value.2.dispatcher) hmade
  · rw [hmade]
    rfl
  · rw [hmade, echoed_append, (aside_reportFinishedJobs shell).echoed host]
    rfl

/-- Behind a round whose line does not come to a status there is another. -/
theorem rounds_unrun {line : String} (hline : (shell.reading host).answer = .line line)
    (hunrun : Command.parse line = .error .empty ∨ ∃ cmd error, Command.parse line = .ok cmd ∧
      ((reportFinishedJobs shell host).value.dispatcher.dispatch cmd shell.state
        (reportFinishedJobs shell host).state).value.1 = .error error) :
    let made := step shell host
    made.value.1 = .ok () ∧ made.value.2.state = shell.state ∧
      ∃ later, shell.rounds host = (shell, host) :: (made.value.2, made.state) :: later := by
  intro made
  have hmade : made.value = _ := step_unrun hline hunrun
  have hstep : made.value.1 = .ok () := by rw [hmade]
  have hleft : made.value.2.state = shell.state := by
    rw [hmade]
    exact state_reportFinishedJobs shell host
  obtain ⟨later, hlater⟩ := exists_rounds_eq_cons (by rw [hleft, hgo]) made.state
  refine ⟨hstep, hleft, later, ?_⟩
  rw [rounds_of_step_ok hgo hstep, hlater]

end

/-- **Only the echo of the end of the input makes a run fail.**  Whatever is registered, whatever
the reader answers and whatever the writer does, a run fails exactly if one of its rounds meets the
end of the input and the echo is not written or not handed on.  That round is the last; it calls
nothing, leaves the state and does nothing to the host but to reap finished jobs.  A round whose
read fails is the last as well, but the run gives the exit code that was held before it; it calls
nothing either, requests an exit and echoes nothing, and the writer is as it was at first.  Behind a
round whose line is no command, or whose command does not come to run, there is always another. -/
theorem run_fails_for_its_echo (shell : Shell ρ σ ω) (host : σ) :
    let ran := shell.run host
    ((∃ error, ran.value.1 = .error error) ↔ ∃ round ∈ shell.rounds host,
      round.1.state.shouldExit = false ∧ (round.1.reading round.2).answer = .closed ∧
        ∃ error, (Writer.write farewell round.1.out).result = .error error ∨
          (Writer.write farewell round.1.out).result = .ok () ∧
            (Writer.flush (Writer.write farewell round.1.out).rest).1 = .error error) ∧
    ∀ before start begun after, shell.rounds host = before ++ (start, begun) :: after →
      let told := reportFinishedJobs start begun
      let answer := (start.reading begun).answer
      let made := start.step begun
      (∀ error, answer = .closed → (Writer.deliver farewell start.out).result = .error error →
        after = [] ∧ ran.value = (.error (.io error), made.value.2) ∧ ran.state = made.state ∧
          start.Idle begun ∧ made.value.2.state = start.state) ∧
      (∀ error, answer = .failed error →
        after = [] ∧ ran.value = (.ok start.state.exitCode, made.value.2) ∧
          ran.state = made.state ∧ start.Idle begun ∧
          made.value.2.state = { start.state with shouldExit := true } ∧
          made.value.2.out = shell.out ∧ echoed made.written = [] ∧
          ∃ earlier, ran.written =
            earlier ++ made.written ++ (finish made.value.2 made.state).written) ∧
      (∀ line, answer = .line line →
        (Command.parse line = .error .empty ∨ ∃ cmd error, Command.parse line = .ok cmd ∧
          (told.value.dispatcher.dispatch cmd start.state told.state).value.1 = .error error) →
        made.value.1 = .ok () ∧ made.value.2.state = start.state ∧
          ∃ later, after = (made.value.2, made.state) :: later) := by
  intro ran
  constructor
  · rw [run_error_iff]
    refine exists_congr fun round => and_congr_right fun hround => ?_
    obtain ⟨before, after, hsplit⟩ := List.mem_iff_append.mp hround
    obtain ⟨-, hrounds, -⟩ := run_behind hsplit
    have hgo := shouldExit_of_rounds_ne_nil (hrounds.trans_ne (List.cons_ne_nil _ _))
    simp only [hgo, true_and, Writer.deliver_error_iff]
  · intro before start begun after hsplit told answer made
    obtain ⟨hout, hrounds, hvalue, hstate, earlier, hwritten⟩ := run_behind hsplit
    have hgo := shouldExit_of_rounds_ne_nil (hrounds.trans_ne (List.cons_ne_nil _ _))
    refine ⟨fun error hclosed hrefused => ?_, fun error hfailed => ?_, fun line hline hunrun => ?_⟩
    · obtain ⟨hlast, hran, hleft, hidle, hkept⟩ := run_refused_echo hgo hclosed hrefused
      rw [hlast] at hrounds
      exact ⟨(List.cons.inj hrounds).2.symm, hvalue.trans hran, hstate.trans hleft, hidle, hkept⟩
    · obtain ⟨hlast, hran, hidle, hleft, hkept, hechoed⟩ := run_unread hgo hfailed
      rw [hlast] at hrounds
      rw [hran] at hvalue hstate hwritten
      refine ⟨(List.cons.inj hrounds).2.symm, hvalue, hstate, hidle, hleft, hkept.trans hout,
        hechoed, earlier, ?_⟩
      rw [hwritten, List.append_assoc]
    · obtain ⟨hstep, hleft, later, hlater⟩ := rounds_unrun hgo hline hunrun
      rw [hlater] at hrounds
      exact ⟨hstep, hleft, later, (List.cons.inj hrounds).2.symm⟩

/-- A writer that takes everything and hands on nothing. -/
structure Clogged where
  error : IoError

instance : Writer Clogged where
  write bytes out := ⟨bytes, .ok (), out⟩
  flush out := (.error out.error, out)

/-- A shell with the usual built-ins whose output is clogged. -/
def clogged (answers : List ReadAnswer) : Shell ScriptedReader Simulation Clogged :=
  { reader := { answers }, out := ⟨.writeRefused⟩, dispatcher := { builtins := .defaults } }

/-- The end of the input makes the run of such a shell fail, and a read that fails does not. -/
theorem run_fails_for_its_echo_clogged :
    ((clogged []).run Simulation.single).value.1 = .error (.io .writeRefused) ∧
      ((clogged [.failed (.io .invalidText)]).run Simulation.single).value.1 = .ok 0 := by
  constructor
  · obtain ⟨-, hround⟩ := run_fails_for_its_echo (clogged []) Simulation.single
    have hstep : ((clogged []).step Simulation.single).value.1 = .error (.io .writeRefused) := rfl
    obtain ⟨hrefused, -, -⟩ := hround [] _ _ [] (rounds_of_step_error rfl hstep)
    exact congrArg (·.1) (hrefused .writeRefused rfl rfl).2.1
  · let unread := clogged [.failed (.io .invalidText)]
    obtain ⟨-, hround⟩ := run_fails_for_its_echo unread Simulation.single
    have hstep : (unread.step Simulation.single).value.1 = .ok () := rfl
    have hrounds : unread.rounds Simulation.single = [(unread, Simulation.single)] := by
      rw [rounds_of_step_ok rfl hstep, rounds_of_shouldExit rfl]
    obtain ⟨-, hunread, -⟩ := hround [] _ _ [] hrounds
    exact congrArg (·.1) (hunread (.io .invalidText) rfl).2.1

end Shell

end JobShell
