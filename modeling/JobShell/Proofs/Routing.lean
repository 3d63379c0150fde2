import JobShell.Proofs.Dispatch
import JobShell.Proofs.Recorded
import JobShell.Proofs.Simulation
import Mathlib.Data.List.Induction

/-!
# Where a command goes

A name belongs to the built-in that was registered last under it
(`Builtins.handler?_registerAll`), and whatever the dispatcher has done since does not change that
(`Dispatcher.Reached.handler?`).  A command whose name belongs to no built-in is launched, which
asks the system to start one child at most and to wait for it only in the foreground
(`Dispatcher.launches_launch`).  So each command goes one way and leaves the rest alone
(`Dispatcher.dispatch_routes`).
-/

namespace JobShell

variable {σ : Type}

/-! ## The built-in that a name belongs to -/

namespace Builtins

/-- What is left of registrations, the first one made first. -/
def registerAll (registrations : List (String × Builtin σ)) : Builtins σ :=
  registrations.foldl (fun builtins made => builtins.register made.1 made.2) {}

theorem registerAll_append_singleton (earlier : List (String × Builtin σ))
    (last : String × Builtin σ) :
    registerAll (earlier ++ [last]) = (registerAll earlier).register last.1 last.2 := by
  unfold registerAll
  rw [List.foldl_append]
  rfl

theorem handler?_eq_some_iff {builtins : Builtins σ} {name : String} {handler : Builtin σ} :
    builtins.handler? name = some handler ↔
      ∃ calls, builtins.get? name = some ⟨handler, calls⟩ := by
  unfold handler?
  rw [Option.map_eq_some_iff]
  constructor
  · rintro ⟨⟨found, calls⟩, hfound, rfl⟩
    exact ⟨calls, hfound⟩
  · rintro ⟨calls, hfound⟩
    exact ⟨_, hfound, rfl⟩

theorem handler?_eq_none_iff {builtins : Builtins σ} {name : String} :
    builtins.handler? name = none ↔ builtins.get? name = none :=
  Option.map_eq_none_iff

/-- A name belongs to the built-in that was registered last under it, and to none if none was. -/
theorem handler?_registerAll (registrations : List (String × Builtin σ)) (name : String) :
    (∃ earlier handler later, registrations = earlier ++ (name, handler) :: later ∧
      (∀ made ∈ later, made.1 ≠ name) ∧
      (registerAll registrations).handler? name = some handler) ∨
    ((∀ made ∈ registrations, made.1 ≠ name) ∧
      (registerAll registrations).handler? name = none) := by
  induction registrations using List.reverseRecOn with
  | nil => exact Or.inr ⟨fun _ h => absurd h List.not_mem_nil, rfl⟩
  | append_singleton earlier last ih =>
    rw [registerAll_append_singleton, register]
    by_cases hname : name = last.1
    · subst hname
      exact Or.inl ⟨earlier, last.2, [], rfl, fun _ h => absurd h List.not_mem_nil,
        handler?_put_self _ _ _⟩
    · rw [handler?_put_of_ne _ hname]
      -- a registration under another name stands behind the last one under this name
      rcases ih with ⟨before, handler, after, rfl, hafter, hfound⟩ | ⟨hnone, hfound⟩
      · refine Or.inl ⟨before, handler, after ++ [last], by simp, ?_, hfound⟩
        exact List.forall_mem_append.mpr ⟨hafter, List.forall_mem_singleton.mpr (Ne.symm hname)⟩
      · refine Or.inr ⟨?_, hfound⟩
        exact List.forall_mem_append.mpr ⟨hnone, List.forall_mem_singleton.mpr (Ne.symm hname)⟩

end Builtins

/-! ## A dispatcher that has been at work -/

namespace Dispatcher

section Reached

variable [Host σ]

/-- A dispatcher that was set up with registrations and has been at work since, whatever its jobs
have come to. -/
inductive Reached (registrations : List (String × Builtin σ)) : Dispatcher σ → Prop
  | new : Reached registrations { builtins := Builtins.registerAll registrations }
  | dispatched {dispatcher : Dispatcher σ} (before : Reached registrations dispatcher)
      (cmd : Command) (state : ShellState) (host : σ) :
      Reached registrations (dispatch cmd state dispatcher host).value.2.2
  | reaped {dispatcher : Dispatcher σ} (before : Reached registrations dispatcher) (host : σ) :
      Reached registrations (dispatcher.reapFinished host).value.2
  | retabled {dispatcher : Dispatcher σ} (before : Reached registrations dispatcher)
      (jobs : JobTable) : Reached registrations { dispatcher with jobs }

/-- Whatever a dispatcher has done, each name belongs to the built-in that it was set up with. -/
theorem Reached.handler? {registrations : List (String × Builtin σ)} {dispatcher : Dispatcher σ}
    (h : Reached registrations dispatcher) (name : String) :
    dispatcher.builtins.handler? name = (Builtins.registerAll registrations).handler? name := by
  induction h with
  | new => rfl
  | dispatched _ cmd state host ih => rw [handler?_dispatch, ih]
  | reaped _ _ ih => exact ih
  | retabled _ _ ih => exact ih

end Reached

end Dispatcher

/-! ## What a launch asks of the system -/

section Recorded

variable [Host σ]

namespace Child

/-- A start asks nothing if a word cannot be passed, and otherwise asks once, for a child on the
words of the command. -/
theorem record_spawn (cmd : Command) (host : Recorded σ) :
    (∃ word, cmd.arguments.find? holdsNull = some word ∧
      (spawn cmd host).value = .error (.invalidArgument word) ∧
      (spawn cmd host).state.record = host.record) ∨
    ∃ (argv : Argv) (answer : Except Errno Pid), argv.words = cmd.arguments ∧
      (spawn cmd host).value = answer.mapError .fork ∧
      (spawn cmd host).state.record = host.record ++ [.launched argv answer] := by
  unfold spawn
  cases hargv : Argv.ofCommand cmd with
  | error word => exact Or.inl ⟨word, Argv.ofCommand_eq_error_iff.mp hargv, rfl, rfl⟩
  | ok argv =>
    refine Or.inr ⟨argv, (Host.launch argv host).value, Argv.words_ofCommand hargv, ?_⟩
    simp only [Act.bind_value, Act.bind_state, Act.ask_value, Act.ask_state]
    rw [← Recorded.record_launch]
    cases (Host.launch argv host).value with
    | error errno => exact ⟨rfl, rfl⟩
    | ok pid => exact ⟨rfl, rfl⟩

/-- A wait asks about its child and nothing else, until the first answer that is final, which it
gives. -/
theorem record_await (pid : Pid) (host : Recorded σ) :
    ∃ answers last, (await pid host).state.record =
        host.record ++ (answers ++ [last]).map (.waited pid) ∧
      (∀ answer ∈ answers, answer.verdict? = none) ∧
      last.verdict? = some (await pid host).value := by
  refine await_induction pid (fun host result hfinal => ?_) (fun host hopen ih => ?_) host
  · obtain ⟨hvalue, hstate⟩ := await_final hfinal
    refine ⟨[], (Host.wait pid host).value, ?_, fun _ h => absurd h List.not_mem_nil, ?_⟩
    · rw [hstate, Recorded.record_wait]
      rfl
    · rw [hvalue, hfinal]
  · obtain ⟨hvalue, hstate⟩ := await_again hopen
    obtain ⟨answers, last, hrecord, hanswers, hlast⟩ := ih
    refine ⟨(Host.wait pid host).value :: answers, last, ?_, ?_, ?_⟩
    · rw [hstate, hrecord, Recorded.record_wait, List.append_assoc]
      rfl
    · exact List.forall_mem_cons.mpr ⟨hopen, hanswers⟩
    · rw [hvalue, hlast]

end Child

namespace Dispatcher

/-- What a launch asks of the system once the output is flushed, how it ends and what becomes of the
jobs. -/
inductive Launches (cmd : Command) (jobs : JobTable) :
    List Question → Except ProcessError Status → JobTable → Prop
  /-- A word cannot be passed, so nothing is asked. -/
  | unpassable {word : String} (hword : cmd.arguments.find? holdsNull = some word) :
      Launches cmd jobs [] (.error (.invalidArgument word)) jobs
  /-- The system starts no child. -/
  | refused {argv : Argv} (hwords : argv.words = cmd.arguments) (errno : Errno) :
      Launches cmd jobs [.launched argv (.error errno)] (.error (.fork errno)) jobs
  /-- A child is started and waited for. -/
  | awaited {argv : Argv} (hwords : argv.words = cmd.arguments) (hfore : cmd.isBackground = false)
      (pid : Pid) {answers : List WaitAnswer} {last : WaitAnswer}
      {result : Except ProcessError Status} (hopen : ∀ answer ∈ answers, answer.verdict? = none)
      (hlast : last.verdict? = some result) :
      Launches cmd jobs
        (.launched argv (.ok pid) :: (answers ++ [last]).map (.waited pid)) result jobs
  /-- A child is started and entered as the newest job. -/
  | tracked {argv : Argv} (hwords : argv.words = cmd.arguments) (hback : cmd.isBackground = true)
      (pid : Pid) (started : Nat) :
      Launches cmd jobs [.launched argv (.ok pid)] (.ok (.detached pid))
        { jobs with
          jobs := jobs.jobs ++ [⟨jobs.nextId, pid, cmd.rawText, started⟩]
          nextId := jobs.nextId + 1 }

/-- An attempt to start a child flushes the output before anything else is asked. -/
theorem record_attempt (cmd : Command) (host : Recorded σ) :
    (∃ word, cmd.arguments.find? holdsNull = some word ∧
      (attempt cmd host).value = .error (.invalidArgument word) ∧
      (attempt cmd host).state.record = host.record ++ [.flushed (Host.flush host).value]) ∨
    ∃ (argv : Argv) (answer : Except Errno Pid), argv.words = cmd.arguments ∧
      (attempt cmd host).value = answer.mapError .fork ∧
      (attempt cmd host).state.record =
        host.record ++ [.flushed (Host.flush host).value, .launched argv answer] := by
  rcases Child.record_spawn cmd (Host.flush host).state with
    ⟨word, hword, hvalue, hrecord⟩ | ⟨argv, answer, hwords, hvalue, hrecord⟩
  · exact Or.inl ⟨word, hword, hvalue, hrecord⟩
  · rw [Recorded.record_flush, List.append_assoc] at hrecord
    exact Or.inr ⟨argv, answer, hwords, hvalue, hrecord⟩

theorem launches_launch (cmd : Command) (dispatcher : Dispatcher (Recorded σ))
    (host : Recorded σ) :
    ∃ flushed asked, (launch cmd dispatcher host).state.record =
        host.record ++ .flushed flushed :: asked ∧
      Launches cmd dispatcher.jobs asked (launch cmd dispatcher host).value.1
        (launch cmd dispatcher host).value.2.jobs := by
  refine ⟨(Host.flush host).value, ?_⟩
  rw [launch_value, launch_state]
  rcases record_attempt cmd host with
    ⟨word, hword, hvalue, hrecord⟩ | ⟨argv, answer, hwords, hvalue, hrecord⟩
  · rw [hvalue]
    exact ⟨_, hrecord, .unpassable hword⟩
  · rw [hvalue]
    cases answer with
    | error errno => exact ⟨_, hrecord, .refused hwords errno⟩
    | ok pid =>
      rw [Except.mapError]
      cases hback : cmd.isBackground with
      | true =>
        obtain ⟨hfollow, hstate⟩ := follow_background hback pid dispatcher (attempt cmd host).state
        rw [hfollow, hstate]
        exact ⟨_, hrecord, .tracked hwords hback pid _⟩
      | false =>
        obtain ⟨hfollow, hstate⟩ := follow_foreground hback pid dispatcher (attempt cmd host).state
        obtain ⟨answers, last, hwaited, hopen, hlast⟩ :=
          Child.record_await pid (attempt cmd host).state
        rw [hfollow, hstate, hwaited, hrecord, List.append_assoc]
        exact ⟨_, rfl, .awaited hwords hback pid hopen hlast⟩

/-- **Each command goes one way.**  A dispatcher was set up with registrations and has been at work
since.  If any built-in was registered under the name of a command, the one that was registered last
under it is called, once, whatever the background marker says: its code is the status, its requests
are made of the state, the system is asked what the built-in asks and nothing else, and the jobs are
left alone.  Any other command leaves the state and the built-ins alone and is launched by one
attempt to start a child, which asks the system once unless a word cannot be passed.  A child in the
foreground is waited for, and the jobs are left alone; one in the background is not waited for but
becomes the newest job. -/
theorem dispatch_routes {registrations : List (String × Builtin (Recorded σ))}
    {dispatcher : Dispatcher (Recorded σ)} (h : Reached registrations dispatcher) (cmd : Command)
    (state : ShellState) (host : Recorded σ) :
    let dispatched := dispatch cmd state dispatcher host
    (∃ earlier handler later calls, registrations = earlier ++ (cmd.name, handler) :: later ∧
      (∀ made ∈ later, made.1 ≠ cmd.name) ∧
      dispatcher.builtins.get? cmd.name = some ⟨handler, calls⟩ ∧
      let reply := handler calls cmd state host
      dispatched.value = (.ok (.builtin reply.value.code), state.applyAll reply.value.requests,
        { dispatcher with builtins := dispatcher.builtins.put cmd.name ⟨handler, calls + 1⟩ }) ∧
      dispatched.state = reply.state) ∨
    ((∀ made ∈ registrations, made.1 ≠ cmd.name) ∧
      dispatched.value.2.1 = state ∧
      dispatched.value.2.2.builtins = dispatcher.builtins ∧
      ∃ flushed asked, dispatched.state.record = host.record ++ .flushed flushed :: asked ∧
        Launches cmd dispatcher.jobs asked dispatched.value.1 dispatched.value.2.2.jobs) := by
  intro dispatched
  have hkept := h.handler? cmd.name
  rcases Builtins.handler?_registerAll registrations cmd.name with
    ⟨earlier, handler, later, hsplit, hlater, hlast⟩ | ⟨hother, hnone⟩
  · obtain ⟨calls, hfound⟩ := Builtins.handler?_eq_some_iff.mp (hkept.trans hlast)
    obtain ⟨reply, rfl, hvalue, hstate⟩ := dispatch_called hfound state host
    exact Or.inl ⟨earlier, handler, later, calls, hsplit, hlater, hfound, hvalue, hstate⟩
  · have hfound := Builtins.handler?_eq_none_iff.mp (hkept.trans hnone)
    obtain ⟨hvalue, hstate⟩ := dispatch_launched hfound state host
    refine Or.inr ⟨hother, ?_⟩
    rw [hvalue, hstate]
    exact ⟨rfl, builtins_launch cmd dispatcher host, launches_launch cmd dispatcher host⟩

/-- A built-in that only answers with a code. -/
def answering (code : Int) : Builtin σ := fun _ _ _ => pure { code }

/-- Two built-ins under the name of a program. -/
def shadows : List (String × Builtin (Recorded Simulation)) :=
  [("sleep", answering 1), ("sleep", answering 42), ("cd", answering 0)]

/-- A dispatcher without built-ins. -/
def bare : Dispatcher (Recorded Simulation) := {}

/-- The same command in the background goes to the later of two built-ins under its name, and to a
child where there is none. -/
theorem dispatch_routes_shadowed :
    (dispatch Simulation.sleeper {} { builtins := Builtins.registerAll shadows }
        ⟨Simulation.single, []⟩).value.1 = .ok (.builtin 42) ∧
      let dispatched := dispatch Simulation.sleeper {} bare ⟨Simulation.single, []⟩
      ∃ flushed asked, dispatched.state.record = .flushed flushed :: asked ∧
        Launches Simulation.sleeper {} asked dispatched.value.1 dispatched.value.2.2.jobs := by
  constructor
  · rcases dispatch_routes (.new : Reached shadows _) Simulation.sleeper {}
        ⟨Simulation.single, []⟩ with
      ⟨_, handler, _, calls, -, -, hfound, hvalue, -⟩ | ⟨hother, -⟩
    · obtain ⟨rfl, rfl⟩ : answering 42 = handler ∧ 0 = calls :=
        Registration.mk.inj (Option.some.inj hfound)
      rw [hvalue]
      rfl
    · exact absurd rfl (hother _ (List.mem_cons_self ..))
  · rcases dispatch_routes (.new : Reached [] bare) Simulation.sleeper {}
        ⟨Simulation.single, []⟩ with ⟨_, _, _, _, hsplit, -⟩ | ⟨-, -, -, hlaunched⟩
    · exact absurd hsplit (by simp)
    · exact hlaunched

end Dispatcher

end Recorded

end JobShell
