import JobShell.Proofs.Attribution
import JobShell.Proofs.Simulation

/-!
# Every run of a dispatcher attributes each status

A `Course` is a dispatcher on a recorded host together with the launches it has made; `Course.Step`
is a dispatch, a collecting of finished jobs, or time that passes.  Each keeps what each child
belongs to (`Step.sound`), so after any run of a fresh dispatcher the table has exactly the
background children that have not been collected, no question is asked about a child that is not
there, and each status is that of the command's own child (`statuses_go_to_their_commands`).
-/

namespace JobShell

open ProcessHost (kernel)

/-- A dispatcher, its host, and the launches it has made. -/
structure Course (σ : Type) where
  dispatcher : Dispatcher (Recorded σ)
  host : Recorded σ
  launches : List Launch

namespace Course

variable {σ : Type} [Host σ] [ProcessHost σ]

/-- The children that were born between two states of a host, as launches of a command. -/
def launched (cmd : Command) (before after : Recorded σ) : List Launch :=
  (List.range' (kernel before).born.length
    ((kernel after).born.length - (kernel before).born.length)).map (⟨cmd, ·⟩)

def dispatch (course : Course σ) (cmd : Command) (state : ShellState) : Course σ :=
  let dispatched := course.dispatcher.dispatch cmd state course.host
  { dispatcher := dispatched.value.2.2
    host := dispatched.state
    launches := course.launches ++ launched cmd course.host dispatched.state }

def reap (course : Course σ) : Course σ :=
  let reaped := course.dispatcher.reapFinished course.host
  { course with dispatcher := reaped.value.2, host := reaped.state }

/-- One thing that can come next. -/
inductive Step : Course σ → Course σ → Prop
  | elapse (course : Course σ) {host : Recorded σ}
      (hpass : (kernel course.host).Passes (kernel host)) : Step course { course with host }
  | dispatch (course : Course σ) (cmd : Command) (state : ShellState) :
      Step course (course.dispatch cmd state)
  | reap (course : Course σ) : Step course course.reap

abbrev Run : Course σ → Course σ → Prop := Relation.ReflTransGen Step

/-- The built-ins leave the children alone, and the table has the children that it should have. -/
structure Sound (course : Course σ) : Prop where
  harmless : course.dispatcher.builtins.Harmless
  attributed : Attributed course.dispatcher.jobs (kernel course.host) course.launches

/-- What may come of a launch: no child is born and it fails; or the one child that is born runs the
command, and the result names it, or is what that very child ended with. -/
inductive OwnResult (cmd : Command) (before : Kernel) : Except ProcessError Status → Kernel → Prop
  | failed {error : ProcessError} {after : Kernel} (hwait : ∀ errno, error ≠ .wait errno)
      (hborn : after.born = before.born) : OwnResult cmd before (.error error) after
  | detached {argv : Argv} {pid : Pid} {after : Kernel} (hback : cmd.isBackground = true)
      (hwords : argv.words = cmd.arguments) (hborn : after.born = before.born ++ [argv])
      (hchild : after.children pid = some before.born.length) :
      OwnResult cmd before (.ok (.detached pid)) after
  | ended {argv : Argv} {e : Ending} {after : Kernel} (hfore : cmd.isBackground = false)
      (hwords : argv.words = cmd.arguments) (hborn : after.born = before.born ++ [argv])
      (hended : after.ending before.born.length = some e) : OwnResult cmd before e.result after

/-! ## What a step does -/

theorem launched_none {cmd : Command} {before after : Recorded σ}
    (hborn : (kernel after).born = (kernel before).born) : launched cmd before after = [] := by
  unfold launched
  rw [hborn, Nat.sub_self]
  rfl

theorem launched_one {cmd : Command} {before after : Recorded σ} {argv : Argv}
    (hborn : (kernel after).born = (kernel before).born ++ [argv]) :
    launched cmd before after = [⟨cmd, (kernel before).born.length⟩] := by
  unfold launched
  rw [hborn, List.length_append, List.length_singleton, Nat.add_sub_cancel_left]
  rfl

theorem Sound.elapse {course : Course σ} (h : course.Sound) {host : Recorded σ}
    (hpass : (kernel course.host).Passes (kernel host)) : Sound { course with host } :=
  ⟨h.harmless, h.attributed.passes hpass⟩

theorem Sound.reap {course : Course σ} (h : course.Sound) : course.reap.Sound := by
  refine ⟨h.harmless, ?_⟩
  have hpolled := h.attributed.collected (JobTable.collected_poll h.attributed.owns)
  rw [← JobTable.poll_table] at hpolled
  exact hpolled

/-- A call of a built-in passes as time does. -/
theorem Sound.call {course : Course σ} (h : course.Sound) {cmd : Command}
    {registration : Registration (Recorded σ)}
    (hfound : course.dispatcher.builtins.get? cmd.name = some registration) (state : ShellState) :
    (course.dispatch cmd state).Sound := by
  obtain ⟨reply, hreply, hvalue, hstate⟩ :=
    Dispatcher.dispatch_called hfound state course.host
  have hpass : (kernel course.host).Passes (kernel reply.state) := by
    rw [hreply]
    exact h.harmless cmd.name registration hfound _ _ _ _
  have hlaunches : (course.dispatch cmd state).launches = course.launches := by
    show course.launches ++ launched cmd course.host _ = course.launches
    rw [hstate, launched_none hpass.born, List.append_nil]
  refine ⟨Dispatcher.all_dispatch h.harmless cmd state course.host, ?_⟩
  rw [hlaunches]
  show Attributed (course.dispatcher.dispatch cmd state course.host).value.2.2.jobs
    (kernel (course.dispatcher.dispatch cmd state course.host).state) course.launches
  rw [hvalue, hstate]
  exact h.attributed.passes hpass

/-- A launch, seen from outside. -/
theorem dispatch_launched {course : Course σ} {cmd : Command}
    (hnone : course.dispatcher.builtins.get? cmd.name = none) (state : ShellState) :
    course.dispatch cmd state =
      { dispatcher := (course.dispatcher.launch cmd course.host).value.2
        host := (course.dispatcher.launch cmd course.host).state
        launches := course.launches ++
          launched cmd course.host (course.dispatcher.launch cmd course.host).state } := by
  obtain ⟨hvalue, hstate⟩ := Dispatcher.dispatch_launched hnone state course.host
  simp only [dispatch, hvalue, hstate]

/-- A launch keeps what each child belongs to, has a result of its own, and asks only about a child
that is there. -/
theorem Sound.launch {course : Course σ} (h : course.Sound) {cmd : Command}
    (hnone : course.dispatcher.builtins.get? cmd.name = none) (state : ShellState) :
    (course.dispatch cmd state).Sound ∧
      OwnResult cmd (kernel course.host)
        (course.dispatcher.dispatch cmd state course.host).value.1
        (kernel (course.dispatch cmd state).host) ∧
      Recorded.Asks Question.Known course.host (course.dispatch cmd state).host := by
  have hasks := Dispatcher.asks_attempt cmd course.host
  rw [dispatch_launched hnone, (Dispatcher.dispatch_launched hnone state course.host).1]
  rcases Dispatcher.launch_cases cmd course.dispatcher course.host with
    ⟨error, -, hwait, hpass, hvalue, hstate⟩ | ⟨argv, pid, -, hwords, hstart, hfollow⟩
  · rw [hvalue, hstate, launched_none hpass.born, List.append_nil]
    exact ⟨⟨h.harmless, h.attributed.passes hpass⟩, .failed hwait hpass.born, hasks⟩
  · obtain ⟨hpos, -, hchild, hborn, -⟩ := hstart.starts_ok
    rcases hfollow with ⟨hback, hvalue, hstate⟩ | ⟨hfore, hvalue, hstate⟩
    · rw [hvalue, hstate, launched_one hborn]
      exact ⟨⟨h.harmless, h.attributed.tracked hstart hwords hback _⟩,
        .detached hback hwords hborn hchild, hasks⟩
    · obtain ⟨hlater, hsame, e, hended, hgone, hresult⟩ := Child.await_own hpos hchild
      have hborn' := hsame.trans hborn
      rw [hvalue, hstate, launched_one hborn']
      refine ⟨⟨h.harmless, h.attributed.awaited hstart hwords hfore hlater hsame hgone⟩, ?_,
        hasks.trans (Child.asks_await hpos hchild)⟩
      show OwnResult cmd _ (Child.await pid (Dispatcher.attempt cmd course.host).state).value _
      rw [hresult]
      exact .ended hfore hwords hborn' hended

theorem Step.sound {course course' : Course σ} (hstep : Step course course') (h : course.Sound) :
    course'.Sound := by
  cases hstep with
  | elapse hpass => exact h.elapse hpass
  | dispatch cmd state =>
    cases hfound : course.dispatcher.builtins.get? cmd.name with
    | none => exact (h.launch hfound state).1
    | some registration => exact h.call hfound state
  | reap => exact h.reap

theorem Run.sound {course course' : Course σ} (hrun : Run course course') (h : course.Sound) :
    course'.Sound := by
  induction hrun with
  | refl => exact h
  | tail _ hstep ih => exact hstep.sound ih

/-- What a collecting of finished jobs returns is told by the children of their own launches. -/
theorem Sound.finished {course : Course σ} (h : course.Sound) :
    ∀ f ∈ (course.dispatcher.reapFinished course.host).value.1,
      ∃ launch e, Launch.Enters course.launches launch f.job ∧
        (kernel course.host).children f.job.pid = some launch.child ∧
        (kernel course.reap.host).ending launch.child = some e ∧ e.result = .ok f.status := by
  intro f hf
  obtain ⟨hjob, child, e, hchild, hended, hresult⟩ :=
    (JobTable.collected_poll h.attributed.owns).finished f hf
  obtain ⟨launch, henters, hown⟩ := h.attributed.traced f.job hjob
  rw [hchild, Option.some.injEq] at hown
  subst hown
  exact ⟨launch, e, henters, hchild, hended, hresult⟩

/-! ## Every status goes to its own command -/

/-- **Attribution.**  After any run of a fresh dispatcher the numbers in the table are different and
are exactly those of the background children that have not been collected; no foreground child is
left.  A launch then asks only about a child that is there, and its result is its own; collecting
the finished jobs asks only about children that are there, and each job returned has the number and
the text of the launch that its child was born in, and the status which that child ended with. -/
theorem statuses_go_to_their_commands {builtins : Builtins (Recorded σ)}
    (hharmless : builtins.Harmless) {signalDriven : Bool} {host : Recorded σ} {course : Course σ}
    (hrun : Run ⟨{ builtins, jobs := { signalDriven } }, host, []⟩ course) :
    let pids := course.dispatcher.jobs.jobs.map (·.pid)
    (pids.Nodup ∧ (course.launches.map Launch.child).Nodup) ∧
    (∀ pid, pid ∈ pids ↔ ∃ launch ∈ course.launches, launch.command.isBackground = true ∧
      (kernel course.host).children pid = some launch.child) ∧
    (∀ launch ∈ course.launches, launch.command.isBackground = false →
      ∀ pid, (kernel course.host).children pid ≠ some launch.child) ∧
    (∀ cmd state, course.dispatcher.builtins.get? cmd.name = none →
      OwnResult cmd (kernel course.host)
        (course.dispatcher.dispatch cmd state course.host).value.1
        (kernel (course.dispatch cmd state).host) ∧
      ∀ asked ∈ Recorded.childAnswers course.host (course.dispatch cmd state).host,
        asked.2 ≠ .failed Errno.noChild) ∧
    (∀ f ∈ (course.dispatcher.reapFinished course.host).value.1,
      ∃ launch e, Launch.Enters course.launches launch f.job ∧
        (kernel course.host).children f.job.pid = some launch.child ∧
        (kernel course.reap.host).ending launch.child = some e ∧ e.result = .ok f.status) ∧
    ∀ asked ∈ Recorded.childAnswers course.host course.reap.host,
      asked.2 ≠ .failed Errno.noChild := by
  intro pids
  have h : course.Sound := hrun.sound ⟨hharmless, Attributed.start rfl rfl _⟩
  refine ⟨⟨h.attributed.owns.nodup, h.attributed.distinct⟩, fun pid => ⟨fun hpid => ?_, ?_⟩, ?_,
    fun cmd state hnone => ?_, h.finished, (JobTable.asks_poll h.attributed.owns).known⟩
  · obtain ⟨job, hjob, rfl⟩ := List.mem_map.mp hpid
    obtain ⟨launch, henters, hchild⟩ := h.attributed.traced job hjob
    exact ⟨launch, henters.background.1, henters.background.2, hchild⟩
  · rintro ⟨launch, hmem, -, hchild⟩
    exact (h.attributed.found pid launch hmem hchild).2
  · intro launch hmem hfore pid hchild
    rw [(h.attributed.found pid launch hmem hchild).1] at hfore
    cases hfore
  · obtain ⟨-, hresult, hasks⟩ := h.launch hnone state
    exact ⟨hresult, hasks.known⟩

open Simulation (single sleeper)

/-- A fresh dispatcher that has started one child in the background. -/
def sleeping : Course Simulation :=
  dispatch ⟨{ builtins := .defaults }, ⟨single, []⟩, []⟩ sleeper {}

/-- The same when the child has ended. -/
def slept : Course Simulation :=
  { sleeping with host := ⟨sleeping.host.host.ends ⟨7⟩ (.exited 3), sleeping.host.record⟩ }

/-- The status of a child that has ended with 3 is returned for the launch it was born in. -/
theorem statuses_go_to_their_commands_slept :
    ∃ f ∈ (slept.dispatcher.reapFinished slept.host).value.1, f.status = .exited 3 ∧
      ∃ launch e, Launch.Enters slept.launches launch f.job ∧
        (kernel slept.host).children f.job.pid = some launch.child ∧
        (kernel slept.reap.host).ending launch.child = some e ∧ e.result = .ok f.status := by
  have hdispatch : Step ⟨{ builtins := .defaults }, ⟨single, []⟩, []⟩ sleeping :=
    Step.dispatch _ sleeper {}
  have hend : Step sleeping slept :=
    Step.elapse sleeping (Simulation.passes_ends ⟨7⟩ (.exited 3) sleeping.host.host)
  have hrun := (Relation.ReflTransGen.single hdispatch).tail hend
  have hreturned : (slept.dispatcher.reapFinished slept.host).value.1 =
      [⟨⟨1, ⟨7⟩, "sleep 1 ", 0⟩, .exited 3, ⟨0⟩⟩] := by rfl
  obtain ⟨-, -, -, -, hfinished, -⟩ :=
    statuses_go_to_their_commands Builtins.harmless_defaults hrun
  have hmem : (⟨⟨1, ⟨7⟩, "sleep 1 ", 0⟩, .exited 3, ⟨0⟩⟩ : FinishedJob) ∈
      (slept.dispatcher.reapFinished slept.host).value.1 := by
    rw [hreturned]
    exact List.mem_singleton_self _
  exact ⟨_, hmem, rfl, hfinished _ hmem⟩

end Course

end JobShell
