import JobShell.Proofs.Recorded
import JobShell.Proofs.Scan
import JobShell.Proofs.Sweep
import Mathlib.Data.List.Nodup

/-!
# What becomes of the jobs of a table

An account is what has come of calls of a fresh table on a host that answers as it likes: the
tickets of the jobs that were entered, the answers about them, and the finished jobs.  After any
calls each ticket is in exactly one of three places: its job is still in the table, it was returned
once as finished with the status that was told of it, or it was dropped because the question about
it failed.  The answers decide which: a job is in the table as long as no answer about it is final
(`entered_in_one_place`).

The invariant is `Balanced`; `step_balanced` is one call and `run_balanced` any number of them.
-/

namespace JobShell

/-- What a job is entered with: its number, its child and its command. -/
structure Ticket where
  id : Nat
  pid : Pid
  command : String
  deriving DecidableEq, Repr

def Job.ticket (job : Job) : Ticket := ⟨job.id, job.pid, job.command⟩

namespace JobTable

/-! ## Calls and their account -/

/-- A call of a table. -/
inductive Action
  | watch
  | track (pid : Pid) (command : String)
  | poll
  | reap
  deriving DecidableEq, Repr

structure Account (σ : Type) where
  table : JobTable := {}
  host : Recorded σ
  /-- What was entered, each under the number that was given out for it. -/
  entered : List Ticket := []
  /-- The questions about jobs, each with its answer. -/
  answered : List (Job × WaitAnswer) := []
  /-- All that was returned as finished. -/
  finished : List FinishedJob := []

namespace Account

variable {σ : Type}

/-- Books what a call collected: the answers it was given were about the jobs that were in the
table, in their order; that each is booked with a job of the child in question is part of
`Balanced`. -/
def collect (account : Account σ)
    (outcome : Outcome Entry (Recorded σ) (List FinishedJob × JobTable)) : Account σ :=
  { account with
    table := outcome.value.2
    host := outcome.state
    answered := account.answered ++
      account.table.jobs.zip ((Recorded.childAnswers account.host outcome.state).map (·.2))
    finished := account.finished ++ outcome.value.1 }

variable [Host σ] in
def step (account : Account σ) : Action → Account σ
  | .watch =>
    let watched := account.table.watch account.host
    { account with table := watched.value.2, host := watched.state }
  | .track pid command =>
    let tracked := account.table.track pid command account.host
    { account with
      table := tracked.value.2
      host := tracked.state
      entered := account.entered ++ [⟨tracked.value.1, pid, command⟩] }
  | .poll => account.collect (account.table.poll account.host)
  | .reap => account.collect (account.table.reap account.host)

variable [Host σ] in
/-- The account of calls of a fresh table. -/
def run (host : σ) (actions : List Action) : Account σ :=
  actions.foldl step { host := ⟨host, []⟩ }

/-! ## The three places -/

/-- The job is still in the table. -/
def Held (account : Account σ) (ticket : Ticket) : Prop :=
  ∃ job ∈ account.table.jobs, job.ticket = ticket

/-- The job was returned as finished, with the status that an answer told. -/
def Returned (account : Account σ) (ticket : Ticket) : Prop :=
  ∃ finished ∈ account.finished, finished.job.ticket = ticket ∧
    ∃ answer, (finished.job, answer) ∈ account.answered ∧ answer.status? = some finished.status

/-- A question about the job failed, other than by an interruption. -/
def Dropped (account : Account σ) (ticket : Ticket) : Prop :=
  ∃ job errno, job.ticket = ticket ∧ (job, .failed errno) ∈ account.answered ∧
    errno ≠ Errno.interrupted

end Account

/-- One of three holds and no other. -/
def ExactlyOne (p q r : Prop) : Prop := (p ∨ q ∨ r) ∧ ¬(p ∧ q) ∧ ¬(p ∧ r) ∧ ¬(q ∧ r)

variable {σ : Type}

/-! ## What a call books -/

/-- What was asked about children in a call: the jobs of the table in turn, with these answers, or
nothing. -/
structure Asked (account : Account σ) (after : Recorded σ) (answered : List (Job × WaitAnswer)) :
    Prop where
  told : answered = [] ∨ ∃ told : List WaitAnswer,
    told.length = account.table.jobs.length ∧ answered = account.table.jobs.zip told
  record : ∃ asked, after.record = account.host.record ++ asked ∧
    asked.filterMap Question.ofChild? = answered.map fun a => (a.1.pid, a.2)

/-- A call books each answer with the job that it was about. -/
theorem Asked.answered_collect {account : Account σ}
    {outcome : Outcome Entry (Recorded σ) (List FinishedJob × JobTable)}
    {answered : List (Job × WaitAnswer)} (h : Asked account outcome.state answered) :
    (account.collect outcome).answered = account.answered ++ answered := by
  obtain ⟨asked, hrecord, hchildren⟩ := h.record
  unfold Account.collect
  rw [Recorded.childAnswers_eq hrecord, hchildren, List.map_map]
  refine congrArg (account.answered ++ ·) ?_
  rcases h.told with rfl | ⟨told, hlen, rfl⟩
  · exact List.zip_nil_right
  · exact congrArg account.table.jobs.zip (List.map_snd_zip (Nat.le_of_eq hlen))

/-! ## The balance -/

/-- Numbers are given out in order, each ticket has its one place, and each answer that was given
about a child is booked with a job of that child. -/
structure Balanced (account : Account σ) : Prop where
  ids : account.entered.map (·.id) = List.range' 1 account.entered.length
  next : account.table.nextId = account.entered.length + 1
  sorted : account.table.jobs.Pairwise (·.id < ·.id)
  places : (account.table.jobs.map Job.ticket ++
    (((finishedOf account.answered).map (·.1)).map Job.ticket ++
      (droppedOf account.answered).map Job.ticket)).Perm account.entered
  statuses : account.finished.map (fun f => (f.job, f.status)) = finishedOf account.answered
  asked : account.host.record.filterMap Question.ofChild? =
    account.answered.map fun a => (a.1.pid, a.2)

theorem finishedOf_append (first later : List (Job × WaitAnswer)) :
    finishedOf (first ++ later) = finishedOf first ++ finishedOf later :=
  List.filterMap_append

theorem droppedOf_append (first later : List (Job × WaitAnswer)) :
    droppedOf (first ++ later) = droppedOf first ++ droppedOf later :=
  List.filterMap_append

namespace Balanced

variable {account : Account σ}

theorem entered_le (h : Balanced account) {ticket : Ticket} (hmem : ticket ∈ account.entered) :
    1 ≤ ticket.id ∧ ticket.id ≤ account.entered.length := by
  have hid : ticket.id ∈ account.entered.map (·.id) := List.mem_map_of_mem hmem
  rw [h.ids, List.mem_range'_1] at hid
  omega

theorem job_entered (h : Balanced account) {job : Job} (hmem : job ∈ account.table.jobs) :
    job.ticket ∈ account.entered :=
  h.places.subset (List.mem_append_left _ (List.mem_map_of_mem hmem))

theorem job_lt (h : Balanced account) {job : Job} (hmem : job ∈ account.table.jobs) :
    job.id < account.table.nextId := by
  have := h.entered_le (h.job_entered hmem)
  rw [h.next]
  show job.ticket.id < _
  omega

end Balanced

theorem balanced_start (host : σ) : Balanced ({ host := ⟨host, []⟩ } : Account σ) where
  ids := rfl
  next := rfl
  sorted := List.Pairwise.nil
  places := List.Perm.refl _
  statuses := rfl
  asked := rfl

/-- What a call asks is booked with the jobs it was about. -/
theorem Balanced.asked_collect {account : Account σ} (h : Balanced account)
    {outcome : Outcome Entry (Recorded σ) (List FinishedJob × JobTable)}
    {answered : List (Job × WaitAnswer)} (hasked : Asked account outcome.state answered) :
    (account.collect outcome).host.record.filterMap Question.ofChild? =
      (account.collect outcome).answered.map fun a => (a.1.pid, a.2) := by
  obtain ⟨asked, hrecord, hchildren⟩ := hasked.record
  rw [hasked.answered_collect, List.map_append, ← h.asked, ← hchildren, ← List.filterMap_append,
    ← hrecord]
  rfl

/-- A call keeps the balance if it keeps, finishes and drops jobs as its answers say. -/
theorem balanced_collect {account : Account σ} (h : Balanced account)
    {outcome : Outcome Entry (Recorded σ) (List FinishedJob × JobTable)}
    {told : List WaitAnswer} (hlen : told.length = account.table.jobs.length)
    (hasked : Asked account outcome.state (account.table.jobs.zip told))
    (hkept : outcome.value.2.jobs = keptOf (account.table.jobs.zip told))
    (hnext : outcome.value.2.nextId = account.table.nextId)
    (hfinished : outcome.value.1.map (fun f => (f.job, f.status)) =
      finishedOf (account.table.jobs.zip told)) :
    Balanced (account.collect outcome) := by
  have hjobs : (account.table.jobs.zip told).map (·.1) = account.table.jobs :=
    List.map_fst_zip (Nat.le_of_eq hlen.symm)
  have hperm := perm_asked (account.table.jobs.zip told)
  have hsub := keptOf_sublist (account.table.jobs.zip told)
  rw [hjobs] at hperm hsub
  have hanswered := hasked.answered_collect
  refine ⟨h.ids, hnext.trans h.next, ?_, ?_, ?_, h.asked_collect hasked⟩
  · show outcome.value.2.jobs.Pairwise _
    rw [hkept]
    exact h.sorted.sublist hsub
  · rw [hanswered, finishedOf_append, droppedOf_append]
    show (outcome.value.2.jobs.map Job.ticket ++ _).Perm account.entered
    rw [hkept]
    refine List.Perm.trans (List.perm_iff_count.mpr fun ticket => ?_) h.places
    have hcount := (hperm.map Job.ticket).count_eq ticket
    simp only [List.map_append, List.count_append] at hcount ⊢
    omega
  · rw [hanswered, finishedOf_append]
    show (account.finished ++ outcome.value.1).map _ = _
    rw [List.map_append, h.statuses, hfinished]

/-- A call that asks about no child and leaves the table as it is keeps the balance. -/
theorem balanced_unchanged {account : Account σ} (h : Balanced account)
    {outcome : Outcome Entry (Recorded σ) (List FinishedJob × JobTable)}
    (hvalue : outcome.value = ([], account.table)) (hasked : Asked account outcome.state []) :
    Balanced (account.collect outcome) := by
  have htable : (account.collect outcome).table = account.table := congrArg (·.2) hvalue
  have hanswered : (account.collect outcome).answered = account.answered := by
    rw [hasked.answered_collect, List.append_nil]
  have hfinished : (account.collect outcome).finished = account.finished := by
    unfold Account.collect
    rw [hvalue, List.append_nil]
  refine ⟨h.ids, ?_, ?_, ?_, ?_, h.asked_collect hasked⟩
  · rw [htable]; exact h.next
  · rw [htable]; exact h.sorted
  · rw [htable, hanswered]; exact h.places
  · rw [hanswered, hfinished]; exact h.statuses

/-! ## Where a ticket is -/

theorem exactlyOne_of_nodup {α : Type} {a b c : List α} {x : α} (h : (a ++ (b ++ c)).Nodup)
    (hx : x ∈ a ++ (b ++ c)) : ExactlyOne (x ∈ a) (x ∈ b) (x ∈ c) := by
  obtain ⟨-, hbc, habc⟩ := List.nodup_append.mp h
  obtain ⟨-, -, hdisjoint⟩ := List.nodup_append.mp hbc
  refine ⟨?_, ?_, ?_, ?_⟩
  · rcases List.mem_append.mp hx with hx | hx
    · exact Or.inl hx
    · exact Or.inr (List.mem_append.mp hx)
  · rintro ⟨ha, hb⟩; exact habc x ha x (List.mem_append_left _ hb) rfl
  · rintro ⟨ha, hc⟩; exact habc x ha x (List.mem_append_right _ hc) rfl
  · rintro ⟨hb, hc⟩; exact hdisjoint x hb x hc rfl

namespace Balanced

variable {account : Account σ}

theorem nodup_places (h : Balanced account) :
    (account.table.jobs.map Job.ticket ++
      (((finishedOf account.answered).map (·.1)).map Job.ticket ++
        (droppedOf account.answered).map Job.ticket)).Nodup := by
  refine h.places.nodup_iff.mpr (List.Nodup.of_map (·.id) ?_)
  rw [h.ids]
  exact List.nodup_range'

theorem tickets_finished (h : Balanced account) :
    account.finished.map (·.job.ticket) =
      ((finishedOf account.answered).map (·.1)).map Job.ticket := by
  rw [← h.statuses, List.map_map, List.map_map]
  rfl

theorem held_iff {ticket : Ticket} :
    account.Held ticket ↔ ticket ∈ account.table.jobs.map Job.ticket :=
  List.mem_map.symm

theorem returned_iff (h : Balanced account) {ticket : Ticket} :
    account.Returned ticket ↔
      ticket ∈ ((finishedOf account.answered).map (·.1)).map Job.ticket := by
  rw [← h.tickets_finished, List.mem_map]
  constructor
  · rintro ⟨finished, hmem, hticket, -⟩
    exact ⟨finished, hmem, hticket⟩
  · rintro ⟨finished, hmem, hticket⟩
    refine ⟨finished, hmem, hticket, mem_finishedOf.mp ?_⟩
    rw [← h.statuses]
    exact List.mem_map_of_mem hmem

theorem dropped_iff {ticket : Ticket} :
    account.Dropped ticket ↔ ticket ∈ (droppedOf account.answered).map Job.ticket := by
  rw [List.mem_map]
  constructor
  · rintro ⟨job, errno, hticket, hmem, herrno⟩
    exact ⟨job, mem_droppedOf.mpr ⟨errno, hmem, herrno⟩, hticket⟩
  · rintro ⟨job, hmem, hticket⟩
    obtain ⟨errno, hmem, herrno⟩ := mem_droppedOf.mp hmem
    exact ⟨job, errno, hticket, hmem, herrno⟩

theorem exactlyOne (h : Balanced account) {ticket : Ticket} (hmem : ticket ∈ account.entered) :
    ExactlyOne (account.Held ticket) (account.Returned ticket) (account.Dropped ticket) := by
  rw [held_iff, h.returned_iff, dropped_iff]
  exact exactlyOne_of_nodup h.nodup_places (h.places.mem_iff.mpr hmem)

/-- A job about which an answer was final was returned, or it was dropped. -/
theorem gone_of_isFinal (h : Balanced account) {job : Job} {answer : WaitAnswer}
    (hmem : (job, answer) ∈ account.answered) (hfinal : answer.isFinal = true) :
    account.Returned job.ticket ∨ account.Dropped job.ticket := by
  rcases WaitAnswer.isFinal_iff.mp hfinal with ⟨status, hstatus⟩ | ⟨errno, rfl, herrno⟩
  · have hfinished : (job, status) ∈ account.finished.map (fun f => (f.job, f.status)) := by
      rw [h.statuses]
      exact mem_finishedOf.mpr ⟨answer, hmem, hstatus⟩
    obtain ⟨finished, hreturned, hpair⟩ := List.mem_map.mp hfinished
    obtain ⟨rfl, rfl⟩ := Prod.mk.inj hpair
    exact Or.inl ⟨finished, hreturned, rfl, answer, hmem, hstatus⟩
  · exact Or.inr ⟨job, errno, rfl, hmem, herrno⟩

/-- A job is in the table as long as no answer about it is final. -/
theorem held_iff_open (h : Balanced account) {ticket : Ticket} (hmem : ticket ∈ account.entered) :
    account.Held ticket ↔ ∀ job answer, (job, answer) ∈ account.answered → job.ticket = ticket →
      answer.isFinal = false := by
  obtain ⟨hplace, hreturned, hdropped, -⟩ := h.exactlyOne hmem
  constructor
  · rintro hheld job answer hanswer rfl
    refine Bool.eq_false_iff.mpr fun hfinal => ?_
    rcases h.gone_of_isFinal hanswer hfinal with hgone | hgone
    · exact hreturned ⟨hheld, hgone⟩
    · exact hdropped ⟨hheld, hgone⟩
  · intro hopen
    have hnot : ∀ {job answer}, (job, answer) ∈ account.answered → job.ticket = ticket →
        answer.isFinal ≠ true := fun hanswer hticket =>
      Bool.eq_false_iff.mp (hopen _ _ hanswer hticket)
    rcases hplace with hheld | ⟨finished, -, hticket, answer, hanswer, hstatus⟩ |
      ⟨job, errno, hticket, hanswer, herrno⟩
    · exact hheld
    · exact absurd (WaitAnswer.isFinal_iff.mpr (Or.inl ⟨_, hstatus⟩)) (hnot hanswer hticket)
    · exact absurd (WaitAnswer.isFinal_iff.mpr (Or.inr ⟨errno, rfl, herrno⟩))
        (hnot hanswer hticket)

end Balanced

variable [Host σ]

theorem sorted_reap {table : JobTable} (h : table.jobs.Pairwise (·.id < ·.id)) (host : σ) :
    (table.reap host).value.1.Pairwise fun f g => f.job.id < g.job.id := by
  have hjobs : (table.reap host).value.1.map (·.job) =
      (finishedOf (table.jobs.zip (answers table.jobs host))).map (·.1) := by
    rw [← finished_reap, List.map_map]
    rfl
  have hsub := finishedOf_sublist (table.jobs.zip (answers table.jobs host))
  rw [map_fst_asked, ← hjobs] at hsub
  have hids : ((table.reap host).value.1.map (·.job)).Pairwise (·.id < ·.id) := h.sublist hsub
  rw [List.pairwise_map] at hids
  exact hids

theorem balanced_watch {account : Account σ} (h : Balanced account) :
    Balanced (account.step .watch) := by
  have htable : (account.step .watch).table.jobs = account.table.jobs ∧
      (account.step .watch).table.nextId = account.table.nextId := by
    simp only [Account.step, watch_value]
    cases (Host.watchChildren account.host).value <;> exact ⟨rfl, rfl⟩
  have hasked : (account.step .watch).host.record.filterMap Question.ofChild? =
      account.answered.map fun a => (a.1.pid, a.2) := by
    simp only [Account.step, watch_state, Recorded.record_watchChildren, List.filterMap_append,
      h.asked]
    exact List.append_nil _
  exact ⟨h.ids, htable.2.trans h.next, by rw [htable.1]; exact h.sorted,
    by rw [htable.1]; exact h.places, h.statuses, hasked⟩

theorem balanced_track {account : Account σ} (h : Balanced account) (pid : Pid)
    (command : String) : Balanced (account.step (.track pid command)) := by
  have hentered : (account.step (.track pid command)).entered =
      account.entered ++ [⟨account.table.nextId, pid, command⟩] := rfl
  have hjobs : (account.step (.track pid command)).table.jobs = account.table.jobs ++
      [⟨account.table.nextId, pid, command, Host.now account.host⟩] := rfl
  have hanswered : (account.step (.track pid command)).answered = account.answered := rfl
  refine ⟨?_, ?_, ?_, ?_, h.statuses, h.asked⟩
  · rw [hentered, List.map_append, h.ids, List.length_append, List.length_singleton,
      List.range'_concat, h.next]
    simp only [List.map_cons, List.map_nil]
    rw [Nat.one_mul, Nat.add_comm]
  · rw [hentered, List.length_append, List.length_singleton, ← h.next]
    rfl
  · rw [hjobs, List.pairwise_append]
    refine ⟨h.sorted, List.pairwise_singleton _ _, fun job hjob new hnew => ?_⟩
    rw [List.mem_singleton] at hnew
    subst hnew
    exact h.job_lt hjob
  · rw [hentered, hjobs, hanswered]
    refine List.perm_iff_count.mpr fun ticket => ?_
    have hcount := h.places.count_eq ticket
    simp only [List.map_append, List.map_cons, List.map_nil, List.count_append] at hcount ⊢
    have hnew : Job.ticket ⟨account.table.nextId, pid, command, Host.now account.host⟩ =
        ⟨account.table.nextId, pid, command⟩ := rfl
    rw [hnew]
    omega

/-- A reaping keeps the balance, even if something else than children was asked about first. -/
theorem balanced_reaped {account : Account σ} (h : Balanced account) {begun : Recorded σ}
    {first : List Question} (hfirst : first.filterMap Question.ofChild? = [])
    (hbegun : begun.record = account.host.record ++ first)
    {outcome : Outcome Entry (Recorded σ) (List FinishedJob × JobTable)}
    (hvalue : outcome.value = (account.table.reap begun).value)
    (hstate : outcome.state = (account.table.reap begun).state) :
    Balanced (account.collect outcome) := by
  have hlen := length_answers account.table.jobs begun
  have hasked : Asked account outcome.state
      (account.table.jobs.zip (answers account.table.jobs begun)) := by
    refine ⟨Or.inr ⟨_, hlen, rfl⟩,
      first ++ looks (account.table.jobs.zip (answers account.table.jobs begun)), ?_, ?_⟩
    · rw [hstate, record_reap, hbegun, List.append_assoc]
    · rw [List.filterMap_append, hfirst, ofChild?_looks, List.nil_append]
  refine balanced_collect h hlen hasked ?_ ?_ ?_
  · rw [hvalue]; exact jobs_reap _ _
  · rw [hvalue]; rfl
  · rw [hvalue]; exact finished_reap _ _

theorem balanced_reap {account : Account σ} (h : Balanced account) :
    Balanced (account.step .reap) :=
  balanced_reaped h rfl (List.append_nil _).symm rfl rfl

theorem balanced_poll {account : Account σ} (h : Balanced account) :
    Balanced (account.step .poll) := by
  obtain ⟨begun, hhost, hpoll⟩ := poll_cases account.table account.host
  obtain ⟨first, hfirst, hrecord⟩ : ∃ first : List Question,
      first.filterMap Question.ofChild? = [] ∧
        begun.record = account.host.record ++ first := by
    rcases hhost with rfl | rfl
    · exact ⟨[], rfl, (List.append_nil _).symm⟩
    · exact ⟨[_], rfl, Recorded.record_takeChildNews _⟩
  rcases hpoll with ⟨hvalue, hstate⟩ | ⟨hvalue, hstate⟩
  · refine balanced_unchanged h hvalue ⟨Or.inl rfl, first, ?_, hfirst⟩
    rw [hstate, hrecord]
  · exact balanced_reaped h hfirst hrecord hvalue hstate

theorem step_balanced {account : Account σ} (h : Balanced account) (action : Action) :
    Balanced (account.step action) := by
  cases action with
  | watch => exact balanced_watch h
  | track pid command => exact balanced_track h pid command
  | poll => exact balanced_poll h
  | reap => exact balanced_reap h

theorem foldl_balanced (actions : List Action) {account : Account σ} (h : Balanced account) :
    Balanced (actions.foldl Account.step account) := by
  induction actions generalizing account with
  | nil => exact h
  | cons action actions ih => exact ih (step_balanced h action)

theorem run_balanced (host : σ) (actions : List Action) : Balanced (Account.run host actions) :=
  foldl_balanced actions (balanced_start host)

/-! ## The account of a run -/

/-- **Accounting.**  After any calls of a fresh table the numbers given out are 1, 2, 3, …, the
table is in their order, and each job entered is still there, or was returned once as it was entered
with the status that was told of it, or was dropped for a failed question.  The answers decide
which: a job is in the table as long as no answer about it is final, and returned are the jobs of
whose ends answers told, as they told of them, in the order of the answers; an answer is that to a
question about the child of the job.  A reaping then asks about each job of the table once, in
order; it returns those of whose ends it was told, in order, and leaves those about which no answer
was final.  A sweep in place does the same. -/
theorem entered_in_one_place (host : σ) (actions : List Action) :
    let account := Account.run host actions
    account.entered.map (·.id) = List.range' 1 account.entered.length ∧
    account.table.jobs.Pairwise (·.id < ·.id) ∧
    (∀ ticket ∈ account.entered, ExactlyOne (account.Held ticket) (account.Returned ticket)
      (account.Dropped ticket)) ∧
    (∀ ticket ∈ account.entered, account.Held ticket ↔ ∀ job answer,
      (job, answer) ∈ account.answered → job.ticket = ticket → answer.isFinal = false) ∧
    (∀ job ∈ account.table.jobs, job.ticket ∈ account.entered) ∧
    (∀ finished ∈ account.finished, finished.job.ticket ∈ account.entered) ∧
    (account.finished.map (·.job.ticket)).Nodup ∧
    account.finished.map (fun f => (f.job, f.status)) =
      account.answered.filterMap (fun a => a.2.status?.map (a.1, ·)) ∧
    account.host.record.filterMap Question.ofChild? =
      account.answered.map (fun a => (a.1.pid, a.2)) ∧
    ∀ later : Recorded σ, ∃ told : List WaitAnswer, told.length = account.table.jobs.length ∧
      let asked := account.table.jobs.zip told
      let reaped := account.table.reap later
      Recorded.since later reaped.state = looks asked ∧
      reaped.value.1.map (fun f => (f.job, f.status)) =
        asked.filterMap (fun a => a.2.status?.map (a.1, ·)) ∧
      reaped.value.2.jobs = (asked.filter fun a => !a.2.isFinal).map (·.1) ∧
      (reaped.value.1.Pairwise fun f g => f.job.id < g.job.id) ∧
      account.table.sweep later = reaped := by
  intro account
  have h : Balanced account := run_balanced host actions
  refine ⟨h.ids, h.sorted, fun ticket => h.exactlyOne, fun ticket => h.held_iff_open,
    fun job => h.job_entered, fun finished hmem => ?_, ?_, ?_, h.asked,
    fun later => ⟨answers account.table.jobs later, length_answers _ _, ?_⟩⟩
  · refine h.places.subset (List.mem_append_right _ (List.mem_append_left _ ?_))
    rw [← h.tickets_finished]
    exact List.mem_map_of_mem hmem
  · rw [h.tickets_finished]
    exact (List.nodup_append.mp (List.nodup_append.mp h.nodup_places).2.1).1
  · rw [h.statuses, finishedOf_eq]
  · refine ⟨Recorded.since_eq (record_reap _ _), ?_, ?_, sorted_reap h.sorted later,
      congrFun (sweep_eq_reap account.table) later⟩
    · rw [finished_reap, finishedOf_eq]
    · rw [jobs_reap, keptOf_eq]

end JobTable

end JobShell
