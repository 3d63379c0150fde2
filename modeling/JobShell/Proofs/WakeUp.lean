import JobShell.Proofs.Dispatch
import JobShell.Proofs.Reaping
import JobShell.Proofs.Simulation

/-!
# No end goes unnoticed

A table that waits for news takes the mark away before it scans and looks at no mark while it has no
jobs, and children may end at any moment: before they are tracked, between two looks of one scan,
between the look at the mark and the scan.  Still, outside a poll, where a tracked child has ended
the mark is set, so the next poll collects it (`no_wake_up_lost`).

A `Moment` is what the shell holds outside a poll, `Moment.Step` one thing that can come next, and
`Vigilant` the invariant; `Moment.Step.vigilant` is one step and `Moment.Run.vigilant` any run.
-/

namespace JobShell

open ProcessHost (kernel)

/-- A moment outside a poll. -/
structure Moment (σ : Type) where
  table : JobTable
  /-- A child that was started and is neither tracked nor collected. -/
  hand : Option Pid
  host : σ

namespace Moment

variable {σ : Type} [Host σ] [ProcessHost σ]

/-- One thing that can come next.  There is no poll between the start of a child and its tracking or
the end of the wait for it. -/
inductive Step : Moment σ → Moment σ → Prop
  | pass {table : JobTable} {hand : Option Pid} {host host' : σ}
      (hpass : (kernel host).Passes (kernel host')) : Step ⟨table, hand, host⟩ ⟨table, hand, host'⟩
  | spawn (table : JobTable) (cmd : Command) (host : σ) : Step ⟨table, none, host⟩
      ⟨table, (Child.spawn cmd host).value.toOption, (Child.spawn cmd host).state⟩
  | track (table : JobTable) (pid : Pid) (command : String) (host : σ) :
      Step ⟨table, some pid, host⟩
        ⟨(table.track pid command host).value.2, none, (table.track pid command host).state⟩
  | wait (table : JobTable) (pid : Pid) (host : σ) : Step ⟨table, some pid, host⟩
      ⟨table, if (Host.wait pid host).value.isFinal then none else some pid,
        (Host.wait pid host).state⟩
  | poll (table : JobTable) (host : σ) : Step ⟨table, none, host⟩
      ⟨(table.poll host).value.2, none, (table.poll host).state⟩

abbrev Run : Moment σ → Moment σ → Prop := Relation.ReflTransGen Step

/-- The children that have been started and not been collected by the shell. -/
def pids (m : Moment σ) : List Pid := m.hand.toList ++ m.table.jobs.map (·.pid)

/-- The table waits for news, and an end of a child that the shell has to do with has left its
mark. -/
structure Vigilant (m : Moment σ) : Prop where
  driven : m.table.signalDriven = true
  watched : (kernel m.host).watched = true
  owns : (kernel m.host).Owns m.pids
  alert : (kernel m.host).Alert m.pids

/-! ## What a step does -/

/-- A stretch of time that touches none of the shell's children changes nothing. -/
theorem Vigilant.later {m : Moment σ} (h : m.Vigilant) {host : σ} {touched : List Pid}
    (hlater : Kernel.Later touched (kernel m.host) (kernel host))
    (hapart : ∀ pid ∈ m.pids, pid ∉ touched) : Vigilant ⟨m.table, m.hand, host⟩ where
  driven := h.driven
  watched := hlater.watched.trans h.watched
  owns := h.owns.keeps hlater.toKeeps hapart
  alert := h.alert.later hlater h.watched hapart

theorem Vigilant.spawn {table : JobTable} {host : σ} (h : Vigilant ⟨table, none, host⟩)
    (cmd : Command) : Vigilant
      ⟨table, (Child.spawn cmd host).value.toOption, (Child.spawn cmd host).state⟩ := by
  rcases Child.spawn_cases cmd host with ⟨error, hvalue, -, hpass⟩ | ⟨argv, pid, -, hvalue, hstart⟩
  · rw [hvalue]
    exact h.later hpass.later fun _ _ => List.not_mem_nil
  · rw [hvalue]
    obtain ⟨hpos, hfree, hchild, -, hlater⟩ := hstart.starts_ok
    have hnew : pid ∉ table.jobs.map (·.pid) := h.owns.not_mem hfree
    have hrest : Vigilant ⟨table, none, (Child.spawn cmd host).state⟩ :=
      h.later hlater (Kernel.apart_of_not_mem hnew)
    refine ⟨hrest.driven, hrest.watched, hrest.owns.cons hpos hnew ⟨_, hchild⟩, ?_⟩
    intro other hother hended
    rcases List.mem_cons.mp hother with rfl | hother
    · -- the new child had not ended before it was born
      obtain ⟨child, e, hfound, hend⟩ := hended
      rw [hchild, Option.some.injEq] at hfound
      subst hfound
      cases hk : (kernel host).ending (kernel host).born.length with
      | none => exact hlater.noticed h.watched hk hend
      | some e' => exact absurd ((kernel host).ending_lt hk) (Nat.lt_irrefl _)
    · exact hrest.alert other hother hended

theorem Vigilant.track {table : JobTable} {pid : Pid} {host : σ}
    (h : Vigilant ⟨table, some pid, host⟩) (command : String) : Vigilant
      ⟨(table.track pid command host).value.2, none, (table.track pid command host).state⟩ := by
  have hpids : pids ⟨(table.track pid command host).value.2, none, host⟩ =
      table.jobs.map (·.pid) ++ [pid] := by
    rw [JobTable.track_value]
    exact List.map_append
  have hperm : (pids ⟨table, some pid, host⟩).Perm (table.jobs.map (·.pid) ++ [pid]) :=
    List.perm_append_comm
  refine ⟨h.driven, h.watched, ?_, ?_⟩
  · show (kernel host).Owns (pids ⟨(table.track pid command host).value.2, none, host⟩)
    rw [hpids]
    exact h.owns.perm hperm
  · show (kernel host).Alert (pids ⟨(table.track pid command host).value.2, none, host⟩)
    rw [hpids]
    exact fun other hother => h.alert other (hperm.mem_iff.mpr hother)

theorem Vigilant.wait {table : JobTable} {pid : Pid} {host : σ}
    (h : Vigilant ⟨table, some pid, host⟩) : Vigilant
      ⟨table, if (Host.wait pid host).value.isFinal then none else some pid,
        (Host.wait pid host).state⟩ := by
  have hpids : pid ∈ pids ⟨table, some pid, host⟩ := List.mem_cons_self
  obtain ⟨child, hchild⟩ := h.owns.own pid hpids
  have hwait := ProcessHost.wait (h.owns.positive pid hpids) host
  have hlater := hwait.later Kernel.Waits.later
  rcases hwait.waits_own hchild with ⟨hopen, hstays⟩ | ⟨e, hanswer, -, -⟩
  · rw [if_neg (by rw [hopen]; exact Bool.false_ne_true)]
    exact h.later (hlater.spare (hstays.trans hchild.symm)) fun _ _ => List.not_mem_nil
  · rw [if_pos (by rw [hanswer, e.isFinal_answer])]
    have hnew : pid ∉ table.jobs.map (·.pid) := (List.nodup_cons.mp h.owns.nodup).1
    have hrest : Vigilant ⟨table, none, host⟩ :=
      ⟨h.driven, h.watched, h.owns.sublist (List.sublist_cons_self _ _),
        fun other hother => h.alert other (List.mem_cons_of_mem _ hother)⟩
    exact hrest.later hlater (Kernel.apart_of_not_mem hnew)

/-- A poll leaves a mark of every end it has not collected, and collects every child that had ended
before it began. -/
theorem Vigilant.scan {table : JobTable} {host : σ} (h : Vigilant ⟨table, none, host⟩) :
    (kernel (table.poll host).state).Alert ((table.poll host).value.2.jobs.map (·.pid)) ∧
      ∀ job : Job, (kernel host).HasEnded job.pid → job ∈ table.jobs →
        job ∉ (table.poll host).value.2.jobs := by
  by_cases hjobs : table.jobs = []
  · rw [JobTable.poll_nil hjobs]
    refine ⟨h.alert, fun job _ hjob => ?_⟩
    rw [hjobs] at hjob
    cases hjob
  · have htold := ProcessHost.takeChildNews host
    rw [JobTable.poll_driven hjobs h.driven, Act.bind_value, Act.bind_state, Act.ask_value,
      Act.ask_state]
    cases hnews : (Host.takeChildNews host).value with
    | false =>
      -- the mark was not set at the moment of the look, so nothing is missed
      obtain ⟨halert, hruns⟩ := htold.tells_silent hnews h.watched h.alert
      exact ⟨halert, fun job hended hjob => absurd hended (hruns _ (List.mem_map_of_mem hjob))⟩
    | true =>
      have hkeeps := htold.keeps_tells
      have hscan := JobTable.scanned_reap (h.owns.keeps hkeeps fun _ _ => List.not_mem_nil)
      exact ⟨hscan.alert (hkeeps.watched.trans h.watched),
        fun job hended _ => hscan.not_kept (hended.keeps hkeeps List.not_mem_nil)⟩

theorem Vigilant.poll {table : JobTable} {host : σ} (h : Vigilant ⟨table, none, host⟩) :
    Vigilant ⟨(table.poll host).value.2, none, (table.poll host).state⟩ := by
  have hcollected := JobTable.collected_poll h.owns
  refine ⟨?_, hcollected.keeps.watched.trans h.watched, hcollected.owns h.owns, h.scan.1⟩
  rw [JobTable.poll_table]
  exact h.driven

theorem Step.vigilant {m m' : Moment σ} (hstep : Step m m') (h : m.Vigilant) : m'.Vigilant := by
  cases hstep with
  | pass hpass => exact h.later hpass.later fun _ _ => List.not_mem_nil
  | spawn table cmd host => exact h.spawn cmd
  | track table pid command host => exact h.track command
  | wait table pid host => exact h.wait
  | poll table host => exact h.poll

theorem Run.vigilant {m m' : Moment σ} (hrun : Run m m') (h : m.Vigilant) : m'.Vigilant := by
  induction hrun with
  | refl => exact h
  | tail _ hstep ih => exact hstep.vigilant ih

/-- A table without jobs that has come to be told of its children is vigilant. -/
theorem vigilant_watch {table : JobTable} {host : σ} (hempty : table.jobs = [])
    (hwatch : (table.watch host).value.1 = .ok ()) :
    Vigilant ⟨(table.watch host).value.2, none, (table.watch host).state⟩ := by
  have hwatching := ProcessHost.watchChildren host
  obtain ⟨hanswer, htable⟩ := JobTable.watch_ok hwatch
  rw [htable, JobTable.watch_state]
  rw [hanswer] at hwatching
  obtain ⟨k, k', -, heffect, hafter⟩ := hwatching
  cases heffect
  have hpids : table.jobs.map (·.pid) = [] := by rw [hempty, List.map_nil]
  refine ⟨rfl, hafter.later.watched, ?_, ?_⟩
  · show (kernel (Host.watchChildren host).state).Owns (table.jobs.map (·.pid))
    rw [hpids]
    exact Kernel.Owns.nil _
  · show (kernel (Host.watchChildren host).state).Alert (table.jobs.map (·.pid))
    rw [hpids]
    intro pid hpid
    cases hpid

/-! ## What the dispatcher does are such steps -/

/-- A wait is a run of single waits, the last of which takes the child out of the hand. -/
theorem run_await (table : JobTable) (pid : Pid) (host : σ) :
    Run ⟨table, some pid, host⟩ ⟨table, none, (Child.await pid host).state⟩ := by
  refine Child.await_induction pid (fun host result hverdict => ?_)
    (fun host hverdict ih => ?_) host
  · have hstep := Step.wait table pid host
    have hfinal : (Host.wait pid host).value.isFinal = true := by
      cases hopen : (Host.wait pid host).value.isFinal with
      | true => rfl
      | false => rw [WaitAnswer.verdict?_eq_none_iff.mpr hopen] at hverdict; cases hverdict
    rw [if_pos hfinal] at hstep
    rw [(Child.await_final hverdict).2]
    exact Relation.ReflTransGen.single hstep
  · have hstep := Step.wait table pid host
    have hopen := WaitAnswer.verdict?_eq_none_iff.mp hverdict
    rw [if_neg (by rw [hopen]; exact Bool.false_ne_true)] at hstep
    rw [(Child.await_again hverdict).2]
    exact Relation.ReflTransGen.head hstep ih

/-- A launch, in the background or not, is such a run. -/
theorem run_launch (cmd : Command) (dispatcher : Dispatcher σ) (host : σ) :
    Run ⟨dispatcher.jobs, none, host⟩ ⟨(dispatcher.launch cmd host).value.2.jobs, none,
      (dispatcher.launch cmd host).state⟩ := by
  have hpass : Step ⟨dispatcher.jobs, none, host⟩
      ⟨dispatcher.jobs, none, (Host.flush host).state⟩ :=
    Step.pass (ProcessHost.flush host)
  have hspawn : Step ⟨dispatcher.jobs, none, (Host.flush host).state⟩
      ⟨dispatcher.jobs, (Dispatcher.attempt cmd host).value.toOption,
        (Dispatcher.attempt cmd host).state⟩ := Step.spawn dispatcher.jobs cmd _
  refine Relation.ReflTransGen.head hpass (Relation.ReflTransGen.head hspawn ?_)
  rcases Dispatcher.launch_cases cmd dispatcher host with ⟨error, hattempt, -, -, hvalue, hstate⟩ |
    ⟨argv, pid, hattempt, -, -, ⟨-, hvalue, hstate⟩ | ⟨-, hvalue, hstate⟩⟩
  · rw [hvalue, hstate, hattempt]
    exact Relation.ReflTransGen.refl
  · rw [hvalue, hstate, hattempt]
    exact Relation.ReflTransGen.single (Step.track _ _ _ _)
  · rw [hvalue, hstate, hattempt]
    exact run_await _ _ _

/-- Collecting the finished jobs is a poll. -/
theorem run_reapFinished (dispatcher : Dispatcher σ) (host : σ) :
    Run ⟨dispatcher.jobs, none, host⟩ ⟨(dispatcher.reapFinished host).value.2.jobs, none,
      (dispatcher.reapFinished host).state⟩ :=
  Relation.ReflTransGen.single (Step.poll dispatcher.jobs host)

/-! ## No wake-up is lost -/

/-- **No lost wake-up.**  Once a table without jobs has come to be told of its children, then at any
moment outside a poll its jobs stand for different children that have not been collected, and where
one of these has ended the mark is set.  A poll at that moment takes from the table, and collects,
every child that had ended before it began.  The launches of a dispatcher and its collecting of
finished jobs are runs of such steps. -/
theorem no_wake_up_lost {table : JobTable} {host : σ} (hempty : table.jobs = [])
    (hwatch : (table.watch host).value.1 = .ok ()) {m : Moment σ}
    (hrun : Run ⟨(table.watch host).value.2, none, (table.watch host).state⟩ m) :
    (kernel m.host).Owns (m.table.jobs.map (·.pid)) ∧
    (∀ job ∈ m.table.jobs, (kernel m.host).HasEnded job.pid → (kernel m.host).news = true) ∧
    (m.hand = none → ∀ job ∈ m.table.jobs, (kernel m.host).HasEnded job.pid →
      job ∉ (m.table.poll m.host).value.2.jobs ∧
        (kernel (m.table.poll m.host).state).children job.pid = none) ∧
    (∀ (cmd : Command) (dispatcher : Dispatcher σ), m.hand = none → dispatcher.jobs = m.table →
      Run m ⟨(dispatcher.launch cmd m.host).value.2.jobs, none,
          (dispatcher.launch cmd m.host).state⟩ ∧
        Run m ⟨(dispatcher.reapFinished m.host).value.2.jobs, none,
          (dispatcher.reapFinished m.host).state⟩) := by
  have h := hrun.vigilant (vigilant_watch hempty hwatch)
  obtain ⟨table, hand, host⟩ := m
  refine ⟨h.owns.sublist (List.sublist_append_right _ _), ?_, ?_, ?_⟩
  · intro job hjob hended
    exact h.alert job.pid (List.mem_append_right _ (List.mem_map_of_mem hjob)) hended
  · rintro rfl job hjob hended
    have hgone := h.scan.2 job hended hjob
    exact ⟨hgone, (JobTable.collected_poll h.owns).gone job hjob hgone⟩
  · rintro cmd dispatcher rfl rfl
    exact ⟨run_launch cmd dispatcher host, run_reapFinished dispatcher host⟩

open Simulation (single sleeper)

/-- The start of a child by a shell that is told of its children. -/
def started : Outcome Entry Simulation (Except ProcessError Pid) :=
  Child.spawn sleeper (({} : JobTable).watch single).state

/-- The host when the child has ended before it could be tracked. -/
def early : Simulation := started.state.ends ⟨7⟩ (.exited 3)

/-- A child that ends before it is tracked is collected by the next poll. -/
theorem no_wake_up_lost_early : ∃ m : Moment Simulation, ∃ job ∈ m.table.jobs,
    (kernel m.host).HasEnded job.pid ∧ (kernel m.host).news = true ∧
      job ∉ (m.table.poll m.host).value.2.jobs := by
  have hstarted : started.value = .ok ⟨7⟩ := by rfl
  have hspawn := Step.spawn (({} : JobTable).watch single).value.2 sleeper
    (({} : JobTable).watch single).state
  rw [show (Child.spawn sleeper (({} : JobTable).watch single).state).value = .ok ⟨7⟩
    from hstarted] at hspawn
  have hrun := ((Relation.ReflTransGen.single hspawn).tail
    (Step.pass (Simulation.passes_ends ⟨7⟩ (.exited 3) started.state))).tail
    (Step.track _ ⟨7⟩ sleeper.rawText early)
  have hended : (kernel early).HasEnded ⟨7⟩ := ⟨0, .exited 3, by rfl, by rfl⟩
  obtain ⟨-, hnews, hpoll, -⟩ := no_wake_up_lost rfl rfl hrun
  have hjob := List.mem_singleton_self (⟨1, ⟨7⟩, "sleep 1 ", 0⟩ : Job)
  exact ⟨_, _, hjob, hended, hnews _ hjob hended, (hpoll rfl _ hjob hended).1⟩

end Moment

end JobShell
