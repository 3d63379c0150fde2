import JobShell.Proofs.Calls

/-!
# The exit request is a latch

A shell changes its state by requests and in no other way (`Shell.Requested`), and no request takes
back an exit or sets a code without one.  So a shell that is to end stays so, and its loop ends at
once, with its code, as often as it is run (`Shell.exit_request_is_latch`).
-/

namespace JobShell

namespace ShellState

variable {s : ShellState}

theorem exitCode_apply (h : s.exitCode ≠ 0 → s.shouldExit = true) (r : Request)
    (hcode : (s.apply r).exitCode ≠ 0) : (s.apply r).shouldExit = true := by
  cases r with
  | exit => rfl
  | exitWith code => rfl
  | record status => exact h hcode

/-- No requests bring a code without an exit. -/
theorem exitCode_applyAll (h : s.exitCode ≠ 0 → s.shouldExit = true) (rs : List Request)
    (hcode : (s.applyAll rs).exitCode ≠ 0) : (s.applyAll rs).shouldExit = true := by
  induction rs generalizing s with
  | nil => exact h hcode
  | cons r rs ih => exact ih (exitCode_apply h r) hcode

theorem applyAll_append (s : ShellState) (rs rs' : List Request) :
    s.applyAll (rs ++ rs') = (s.applyAll rs).applyAll rs' :=
  List.foldl_append

end ShellState

namespace Shell

variable {ρ σ ω : Type} [Host σ]

/-- The state of the shell came of this one by requests. -/
def Requested (start : ShellState) (shell : Shell ρ σ ω) : Prop :=
  ∃ requests, shell.state = start.applyAll requests

section

variable {start : ShellState} {shell : Shell ρ σ ω}

omit [Host σ] in
theorem Requested.more {shell' : Shell ρ σ ω} (h : Requested start shell)
    (rs : List ShellState.Request) (hstate : shell'.state = shell.state.applyAll rs) :
    Requested start shell' := by
  obtain ⟨requests, hrequests⟩ := h
  exact ⟨requests ++ rs, by rw [hstate, hrequests, ShellState.applyAll_append]⟩

/-- A command asks for what its built-in replies and for its status to be recorded. -/
theorem Requested.execute (cmd : Command) (host : σ) (h : Requested start shell) :
    Requested start (execute cmd shell host).value.2 := by
  cases hfound : shell.dispatcher.builtins.get? cmd.name with
  | some registration =>
    let reply := (registration.handler registration.calls cmd shell.state host).value
    refine h.more (reply.requests ++ [.record (.builtin reply.code)]) ?_
    rw [execute_called hfound, ShellState.applyAll_append]
    rfl
  | none =>
    rw [execute_launched hfound]
    cases (Dispatcher.launch cmd shell.dispatcher host).value.1 with
    | error error => exact h.more [] rfl
    | ok status => exact h.more [.record status] rfl

/-- Every call changes the state by requests. -/
theorem kept_requested (start : ShellState) :
    Kept (Requested (ρ := ρ) (σ := σ) (ω := ω) start) where
  execute cmd host h := h.execute cmd host
  report host h := h.more [] (state_reportFinishedJobs _ host)
  moved _ _ h := h.more [] rfl
  requestExit h := h.more [.exit] rfl
  install host h := by
    obtain ⟨signalDriven, hinstalled⟩ := value_installSignalHandlers _ host
    rw [hinstalled]
    exact h.more [] rfl

end

/-! ## Shells that are to end -/

/-- What is logged at the end of a loop. -/
def farewellRecord (code : Int) : Log.Record :=
  ⟨.debug, .readLoop, s!"leaving read loop with code {code}"⟩

variable [LineReader ρ] [Writer ω]

theorem requested_calls (asked : List Call) (shell : Shell ρ σ ω) (host : σ) :
    Requested shell.state (calls asked shell host).value.2 :=
  (kept_requested shell.state).calls ⟨[], rfl⟩ asked host

/-- The loop of a shell that is to end logs its end and does nothing else. -/
theorem run_ended {shell : Shell ρ σ ω} (h : shell.state.shouldExit = true) (host : σ) :
    run shell host = ⟨(.ok shell.state.exitCode, shell),
      [.log (Host.now host) (farewellRecord shell.state.exitCode)], host⟩ := by
  rw [run_of_shouldExit h]
  rfl

theorem marks_ended {shell : Shell ρ σ ω} (h : shell.state.shouldExit = true) (host : σ) :
    shell.marks host = [] := by
  rw [marks_eq_rounds, rounds_of_shouldExit h]
  rfl

/-- A loop that comes to a code leaves a shell that is to end with it. -/
theorem run_ok {shell : Shell ρ σ ω} {host : σ} {code : Int}
    (h : (run shell host).value.1 = .ok code) :
    (run shell host).value.2.state.shouldExit = true ∧
      (run shell host).value.2.state.exitCode = code := by
  induction shell, host using run_induction with
  | exit shell host hexit =>
    rw [run_ended hexit] at h ⊢
    exact ⟨hexit, Except.ok.inj h⟩
  | error shell host error hgo hstep =>
    rw [run_of_step_error hgo hstep] at h
    cases h
  | go shell host hgo hstep ih =>
    rw [run_of_step_ok hgo hstep] at h ⊢
    exact ih h

/-- **The exit request is a latch.**  Of a new shell, with any built-ins, reader and host, and after
any calls: once it is to end it is so after any further calls; its code is not zero only if it is to
end; and when it is to end, its loop gives its code at once: it makes no round, so it prompts,
reads, reaps and dispatches nothing, and leaves the shell and the host as they are.  All it adds to
the journal is a debug record of its end, which is on no stream unless such records are shown.  So a
loop that came to a code comes to it again. -/
theorem exit_request_is_latch (flags : Flags) (builtins : Builtins σ) (reader : ρ) (out : ω)
    (host : σ) (earlier later : List Call) :
    let fresh : Shell ρ σ ω := (Shell.new flags reader out).withBuiltins builtins
    let before := calls earlier fresh host
    let shell := before.value.2
    let after := calls later shell before.state
    (shell.state.shouldExit = true → after.value.2.state.shouldExit = true) ∧
    (shell.state.exitCode ≠ 0 → shell.state.shouldExit = true) ∧
    (shell.state.shouldExit = true → ∀ host : σ,
      run shell host = ⟨(.ok shell.state.exitCode, shell),
        [.log (Host.now host) (farewellRecord shell.state.exitCode)], host⟩ ∧
      shell.rounds host = [] ∧ shell.marks host = []) ∧
    (∀ code, (run shell before.state).value.1 = .ok code →
      let ended := run shell before.state
      run ended.value.2 ended.state = ⟨(.ok code, ended.value.2),
        [.log (Host.now ended.state) (farewellRecord code)], ended.state⟩) ∧
    (∀ (console : Console) (time : Nat) (code : Int),
      Console.outputBytes (.log time (farewellRecord code)) = [] ∧
      (console.filter.any (·.admits (farewellRecord code)) = false →
        console.errorBytes (.log time (farewellRecord code)) = [])) := by
  intro fresh before shell after
  refine ⟨fun hexit => ?_, fun hcode => ?_, fun hexit host => ?_, fun code hcode => ?_,
    fun console time code => ⟨rfl, fun hhidden => ?_⟩⟩
  · obtain ⟨requests, hafter⟩ := requested_calls later shell before.state
    rw [show after.value.2.state = _ from hafter]
    exact ShellState.shouldExit_applyAll hexit requests
  · obtain ⟨requests, hbefore⟩ := requested_calls earlier fresh host
    have hfresh : fresh.state.exitCode ≠ 0 → fresh.state.shouldExit = true :=
      fun hcode => absurd rfl hcode
    rw [show shell.state = _ from hbefore] at hcode ⊢
    exact ShellState.exitCode_applyAll hfresh requests hcode
  · exact ⟨run_ended hexit host, rounds_of_shouldExit hexit host, marks_ended hexit host⟩
  · intro ended
    obtain ⟨hexit, hended⟩ := run_ok hcode
    rw [← hended]
    exact run_ended hexit ended.state
  · simp only [Console.errorBytes, hhidden, Bool.false_eq_true, if_false]

end Shell

end JobShell
