import JobShell.Builtin.ChangeDirectory
import JobShell.Dispatcher
import JobShell.Proofs.Children
import JobShell.Proofs.Scan

/-!
# What a dispatch comes to

A command that is no built-in is launched: after a flush a child is started, and it is tracked or
waited for (`dispatch_launched`).  A built-in is called (`dispatch_called`); the children are left
alone by one that neither starts nor collects any (`Builtin.Harmless`), as do those of a new shell
(`harmless_defaults`).
-/

namespace JobShell

open ProcessHost (kernel)

/-! ## Built-ins of one kind -/

/-- Each registered built-in is of this kind. -/
def Builtins.All {σ : Type} (kind : Builtin σ → Prop) (builtins : Builtins σ) : Prop :=
  ∀ name registration, builtins.get? name = some registration → kind registration.handler

namespace Builtins

variable {σ : Type} {kind : Builtin σ → Prop}

theorem all_nothing : ({} : Builtins σ).All kind := by
  intro name registration hfound
  cases hfound

theorem All.put {builtins : Builtins σ} (h : builtins.All kind) (name : String)
    {registration : Registration σ} (hhandler : kind registration.handler) :
    (builtins.put name registration).All kind := by
  intro other found hfound
  by_cases hother : other = name
  · rw [hother, get?_put_self, Option.some.injEq] at hfound
    rw [← hfound]
    exact hhandler
  · rw [get?_put_of_ne builtins hother] at hfound
    exact h other found hfound

/-! ## Built-ins that have been called -/

/-- What is registered under a name, however often it was called. -/
def handler? (builtins : Builtins σ) (name : String) : Option (Builtin σ) :=
  (builtins.get? name).map (·.handler)

theorem handler?_put_self (builtins : Builtins σ) (name : String) (r : Registration σ) :
    (builtins.put name r).handler? name = some r.handler := by
  unfold handler?
  rw [get?_put_self]
  rfl

theorem handler?_put_of_ne (builtins : Builtins σ) {name other : String} (h : other ≠ name)
    (r : Registration σ) : (builtins.put name r).handler? other = builtins.handler? other := by
  unfold handler?
  rw [get?_put_of_ne builtins h]

/-- Counting a call leaves every name what was registered under it. -/
theorem handler?_count {builtins : Builtins σ} {name : String} {registration : Registration σ}
    (hfound : builtins.get? name = some registration) (calls : Nat) (other : String) :
    (builtins.put name { registration with calls }).handler? other = builtins.handler? other := by
  by_cases hother : other = name
  · rw [hother, handler?_put_self]
    unfold handler?
    rw [hfound]
    rfl
  · rw [handler?_put_of_ne _ hother]

end Builtins

namespace Dispatcher

variable {σ : Type} [Host σ]

@[simp] theorem flushFor_state (name : String) (host : σ) :
    (flushFor name host).state = (Host.flush host).state := by
  unfold flushFor
  rw [Act.bind_state, Act.ask_value, Act.ask_state]
  cases (Host.flush host).value <;> rfl

/-- The attempt of a launch to start a child. -/
def attempt (cmd : Command) (host : σ) : Outcome Entry σ (Except ProcessError Pid) :=
  Child.spawn cmd (Host.flush host).state

theorem launch_value (cmd : Command) (dispatcher : Dispatcher σ) (host : σ) :
    (launch cmd dispatcher host).value =
      (follow cmd (attempt cmd host).value dispatcher (attempt cmd host).state).value := by
  simp only [launch, attempt, Act.bind_value, flushFor_state]

theorem launch_state (cmd : Command) (dispatcher : Dispatcher σ) (host : σ) :
    (launch cmd dispatcher host).state =
      (follow cmd (attempt cmd host).value dispatcher (attempt cmd host).state).state := by
  simp only [launch, attempt, Act.bind_state, flushFor_state]

theorem follow_background {cmd : Command} (hback : cmd.isBackground = true) (pid : Pid)
    (dispatcher : Dispatcher σ) (host : σ) :
    (follow cmd (.ok pid) dispatcher host).value = (.ok (.detached pid), { dispatcher with
        jobs := (dispatcher.jobs.track pid cmd.rawText host).value.2 }) ∧
      (follow cmd (.ok pid) dispatcher host).state = host := by
  simp only [follow, if_pos hback]
  exact ⟨rfl, rfl⟩

theorem follow_foreground {cmd : Command} (hfore : cmd.isBackground = false) (pid : Pid)
    (dispatcher : Dispatcher σ) (host : σ) :
    (follow cmd (.ok pid) dispatcher host).value = ((Child.await pid host).value, dispatcher) ∧
      (follow cmd (.ok pid) dispatcher host).state = (Child.await pid host).state := by
  simp only [follow, hfore]
  exact ⟨rfl, rfl⟩

/-- A launch comes to the failure to start a child, or the child that was started is tracked or
waited for. -/
theorem launch_value_cases (cmd : Command) (dispatcher : Dispatcher σ) (host : σ) :
    (∃ error, (attempt cmd host).value = .error error ∧
      (launch cmd dispatcher host).value = (.error error, dispatcher)) ∨
    ∃ pid, (attempt cmd host).value = .ok pid ∧
      ((cmd.isBackground = true ∧ (launch cmd dispatcher host).value = (.ok (.detached pid),
          { dispatcher with
            jobs := (dispatcher.jobs.track pid cmd.rawText (attempt cmd host).state).value.2 })) ∨
        (cmd.isBackground = false ∧ (launch cmd dispatcher host).value =
          ((Child.await pid (attempt cmd host).state).value, dispatcher))) := by
  rw [launch_value]
  cases hattempt : (attempt cmd host).value with
  | error error => exact Or.inl ⟨error, rfl, rfl⟩
  | ok pid =>
    refine Or.inr ⟨pid, rfl, ?_⟩
    cases hback : cmd.isBackground with
    | true => exact Or.inl ⟨rfl, (follow_background hback pid dispatcher _).1⟩
    | false => exact Or.inr ⟨rfl, (follow_foreground hback pid dispatcher _).1⟩

theorem dispatch_launched {cmd : Command} {dispatcher : Dispatcher σ}
    (h : dispatcher.builtins.get? cmd.name = none) (state : ShellState) (host : σ) :
    (dispatch cmd state dispatcher host).value =
        ((launch cmd dispatcher host).value.1, state, (launch cmd dispatcher host).value.2) ∧
      (dispatch cmd state dispatcher host).state = (launch cmd dispatcher host).state := by
  unfold dispatch
  rw [h]
  exact ⟨rfl, rfl⟩

theorem dispatch_called {cmd : Command} {dispatcher : Dispatcher σ} {registration : Registration σ}
    (h : dispatcher.builtins.get? cmd.name = some registration) (state : ShellState) (host : σ) :
    ∃ reply, reply = registration.handler registration.calls cmd state host ∧
      (dispatch cmd state dispatcher host).value = (.ok (.builtin reply.value.code),
        state.applyAll reply.value.requests, { dispatcher with
          builtins := dispatcher.builtins.put cmd.name
            { registration with calls := registration.calls + 1 } }) ∧
      (dispatch cmd state dispatcher host).state = reply.state := by
  unfold dispatch
  rw [h]
  exact ⟨_, rfl, rfl, rfl⟩

theorem builtins_launch (cmd : Command) (dispatcher : Dispatcher σ) (host : σ) :
    (launch cmd dispatcher host).value.2.builtins = dispatcher.builtins := by
  rcases launch_value_cases cmd dispatcher host with
    ⟨error, -, hvalue⟩ | ⟨pid, -, ⟨-, hvalue⟩ | ⟨-, hvalue⟩⟩ <;> rw [hvalue]

/-- A dispatch leaves every name what was registered under it. -/
theorem handler?_dispatch (cmd : Command) (state : ShellState) (dispatcher : Dispatcher σ)
    (host : σ) (name : String) :
    (dispatch cmd state dispatcher host).value.2.2.builtins.handler? name =
      dispatcher.builtins.handler? name := by
  cases hfound : dispatcher.builtins.get? cmd.name with
  | none =>
    rw [(dispatch_launched hfound state host).1]
    show (launch cmd dispatcher host).value.2.builtins.handler? name = _
    rw [builtins_launch]
  | some registration =>
    obtain ⟨reply, -, hvalue, -⟩ := dispatch_called hfound state host
    rw [hvalue]
    exact Builtins.handler?_count hfound _ name

/-- A dispatch registers no built-in. -/
theorem all_dispatch {kind : Builtin σ → Prop} {dispatcher : Dispatcher σ}
    (h : dispatcher.builtins.All kind) (cmd : Command) (state : ShellState) (host : σ) :
    (dispatch cmd state dispatcher host).value.2.2.builtins.All kind := by
  cases hfound : dispatcher.builtins.get? cmd.name with
  | none =>
    rw [(dispatch_launched hfound state host).1]
    show (launch cmd dispatcher host).value.2.builtins.All kind
    rw [builtins_launch]
    exact h
  | some registration =>
    obtain ⟨reply, -, hvalue, -⟩ := dispatch_called hfound state host
    rw [hvalue]
    exact h.put cmd.name (h cmd.name registration hfound)

variable [ProcessHost σ]

/-- A launch starts no child and fails, or it starts one on the words of the command, which is then
tracked or waited for. -/
theorem launch_cases (cmd : Command) (dispatcher : Dispatcher σ) (host : σ) :
    (∃ error, (attempt cmd host).value = .error error ∧ (∀ errno, error ≠ .wait errno) ∧
      (kernel host).Passes (kernel (attempt cmd host).state) ∧
      (launch cmd dispatcher host).value = (.error error, dispatcher) ∧
      (launch cmd dispatcher host).state = (attempt cmd host).state) ∨
    ∃ argv pid, (attempt cmd host).value = .ok pid ∧ argv.words = cmd.arguments ∧
      Kernel.During (Kernel.Starts argv) (kernel host) (.ok pid)
        (kernel (attempt cmd host).state) ∧
      ((cmd.isBackground = true ∧ (launch cmd dispatcher host).value = (.ok (.detached pid),
          { dispatcher with
            jobs := (dispatcher.jobs.track pid cmd.rawText (attempt cmd host).state).value.2 }) ∧
          (launch cmd dispatcher host).state = (attempt cmd host).state) ∨
        (cmd.isBackground = false ∧ (launch cmd dispatcher host).value =
            ((Child.await pid (attempt cmd host).state).value, dispatcher) ∧
          (launch cmd dispatcher host).state =
            (Child.await pid (attempt cmd host).state).state)) := by
  have hflush := ProcessHost.flush host
  rw [launch_value, launch_state]
  rcases Child.spawn_cases cmd (Host.flush host).state with
    ⟨error, hvalue, hwait, hpass⟩ | ⟨argv, pid, hwords, hvalue, hstart⟩
  · have hattempt : (attempt cmd host).value = .error error := hvalue
    rw [hattempt]
    exact Or.inl ⟨error, rfl, hwait, hflush.trans hpass, rfl, rfl⟩
  · have hattempt : (attempt cmd host).value = .ok pid := hvalue
    rw [hattempt]
    refine Or.inr ⟨argv, pid, rfl, hwords, hstart.before hflush, ?_⟩
    cases hback : cmd.isBackground with
    | true => exact Or.inl ⟨rfl, follow_background hback pid dispatcher _⟩
    | false => exact Or.inr ⟨rfl, follow_foreground hback pid dispatcher _⟩

end Dispatcher

/-! ## Built-ins that leave the children alone -/

variable {σ : Type} [Host σ] [ProcessHost σ]

/-- However often it was called before, a call lets time pass for the children and does nothing to
them. -/
def Builtin.Harmless (builtin : Builtin σ) : Prop :=
  ∀ calls cmd state host, (kernel host).Passes (kernel (builtin calls cmd state host).state)

def Builtins.Harmless (builtins : Builtins σ) : Prop := builtins.All Builtin.Harmless

theorem Exit.harmless : (Exit.builtin : Builtin σ).Harmless := by
  intro calls cmd state host
  unfold Exit.builtin
  cases cmd.args.head? with
  | none => exact Relation.ReflTransGen.refl
  | some argument =>
    cases hcode : code? argument with
    | none =>
      simp only [hcode]
      exact Relation.ReflTransGen.refl
    | some code =>
      simp only [hcode]
      exact Relation.ReflTransGen.refl

theorem ChangeDirectory.harmless : (ChangeDirectory.builtin : Builtin σ).Harmless := by
  intro calls cmd state host
  unfold ChangeDirectory.builtin
  rw [Act.bind_state, Act.view_value, Act.view_state]
  cases ChangeDirectory.target? cmd host with
  | none => exact Relation.ReflTransGen.refl
  | some path =>
    have hpass := ProcessHost.changeDirectory path host
    simp only [Act.bind_state, Act.ask_value, Act.ask_state]
    cases (Host.changeDirectory path host).value <;> exact hpass

theorem Builtins.harmless_defaults : (Builtins.defaults : Builtins σ).Harmless :=
  (Builtins.all_nothing.put "exit" Exit.harmless).put "cd" ChangeDirectory.harmless

end JobShell
