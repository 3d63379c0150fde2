import JobShell.Proofs.Dispatch
import JobShell.Proofs.Reaping

/-!
# Only own children are asked about

Starting a child, waiting for an own one and polling a table of own children ask no question to
which the answer is that there is no such child (`asks_await`, `asks_poll`).
-/

namespace JobShell

open ProcessHost (kernel)

/-- The question is not about a child that the system does not know. -/
def Question.Known (question : Question) : Prop :=
  ∀ pid, question.ofChild? ≠ some (pid, .failed Errno.noChild)

theorem Question.known_of_none {question : Question} (h : question.ofChild? = none) :
    question.Known := by
  intro pid hasked
  rw [h] at hasked
  cases hasked

/-- Where all children that were asked about are known, no answer is that there is no such child. -/
theorem Recorded.Asks.known {σ : Type} {before after : Recorded σ}
    (h : Asks Question.Known before after) :
    ∀ asked ∈ childAnswers before after, asked.2 ≠ .failed Errno.noChild := by
  rintro ⟨pid, answer⟩ hmem hanswer
  obtain ⟨question, hquestion, hasked⟩ := List.mem_filterMap.mp hmem
  rw [show answer = .failed Errno.noChild from hanswer] at hasked
  exact h.of_mem_since question hquestion pid hasked

variable {σ : Type} [Host σ]

theorem asks_flush (host : Recorded σ) :
    Recorded.Asks Question.Known host (Host.flush host).state :=
  Recorded.Asks.single (Recorded.record_flush host) (Question.known_of_none rfl)

theorem asks_wait {pid : Pid} {host : Recorded σ}
    (hanswer : (Host.wait pid host).value ≠ .failed Errno.noChild) :
    Recorded.Asks Question.Known host (Host.wait pid host).state := by
  refine Recorded.Asks.single (Recorded.record_wait pid host) fun other hother => hanswer ?_
  exact (Prod.mk.inj (Option.some.inj hother)).2

theorem Child.asks_spawn (cmd : Command) (host : Recorded σ) :
    Recorded.Asks Question.Known host (Child.spawn cmd host).state := by
  unfold Child.spawn
  cases Argv.ofCommand cmd with
  | error word => exact Recorded.Asks.refl host
  | ok argv =>
    have hlaunch : Recorded.Asks Question.Known host (Host.launch argv host).state :=
      Recorded.Asks.single (Recorded.record_launch argv host) (Question.known_of_none rfl)
    simp only [Act.bind_state, Act.ask_value, Act.ask_state]
    cases (Host.launch argv host).value <;> exact hlaunch

theorem Dispatcher.asks_attempt (cmd : Command) (host : Recorded σ) :
    Recorded.Asks Question.Known host (Dispatcher.attempt cmd host).state :=
  (asks_flush host).trans (Child.asks_spawn cmd _)

variable [ProcessHost σ]

/-- A wait for an own child is never told that there is no such child. -/
theorem Child.asks_await {pid : Pid} (hpos : 0 < pid.number) {child : Nat} {host : Recorded σ}
    (hchild : (kernel host).children pid = some child) :
    Recorded.Asks Question.Known host (Child.await pid host).state := by
  revert hchild
  refine await_induction pid (fun host result hverdict hchild => ?_)
    (fun host hverdict ih hchild => ?_) host
  · rw [(await_final hverdict).2]
    refine asks_wait fun hanswer => ?_
    rcases (ProcessHost.wait hpos host).waits_own hchild with ⟨hopen, -⟩ | ⟨e, htold, -, -⟩
    · rw [hanswer] at hopen
      cases hopen
    · exact e.answer_ne_noChild (htold.symm.trans hanswer)
  · rw [(await_again hverdict).2]
    rcases (ProcessHost.wait hpos host).waits_own hchild with ⟨-, hstays⟩ | ⟨e, htold, -, -⟩
    · refine (asks_wait fun hanswer => ?_).trans (ih hstays)
      rw [hanswer] at hverdict
      cases hverdict
    · rw [htold, e.verdict?_answer] at hverdict
      cases hverdict

namespace JobTable

theorem asks_reap {table : JobTable} {host : Recorded σ}
    (h : (kernel host).Owns (table.jobs.map (·.pid))) :
    Recorded.Asks Question.Known host (table.reap host).state := by
  refine ⟨_, record_reap table host, fun question hmem pid hasked => ?_⟩
  obtain ⟨⟨job, answer⟩, hpair, rfl⟩ := List.mem_map.mp hmem
  have hanswer := answers_ne_noChild h answer (List.of_mem_zip hpair).2
  exact hanswer (Prod.mk.inj (Option.some.inj hasked)).2

/-- A poll of own children is never told that there is no such child. -/
theorem asks_poll {table : JobTable} {host : Recorded σ}
    (h : (kernel host).Owns (table.jobs.map (·.pid))) :
    Recorded.Asks Question.Known host (table.poll host).state := by
  obtain ⟨host', hhost, hpoll⟩ := poll_cases table host
  obtain ⟨hasks, hkeeps⟩ : Recorded.Asks Question.Known host host' ∧
      Kernel.Keeps [] (kernel host) (kernel host') := by
    rcases hhost with rfl | rfl
    · exact ⟨Recorded.Asks.refl _, (Kernel.Later.refl _).toKeeps⟩
    · exact ⟨Recorded.Asks.single (Recorded.record_takeChildNews host) (Question.known_of_none rfl),
        (ProcessHost.takeChildNews host).keeps_tells⟩
  rcases hpoll with ⟨-, hstate⟩ | ⟨-, hstate⟩
  · rw [hstate]
    exact hasks
  · rw [hstate]
    exact hasks.trans (asks_reap (h.keeps hkeeps fun _ _ => List.not_mem_nil))

end JobTable

end JobShell
