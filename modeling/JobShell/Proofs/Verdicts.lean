import JobShell.Proofs.Await
import JobShell.Proofs.Scan

/-!
# Waiting and reaping take an answer alike

A wait asks about one child until an answer is final; a reaping asks once about each job, and keeps
those of which it learns no end.  The same answer means the same to both (`verdict?_fate`): what
makes a wait go on makes a reaping keep the job, a wait gives the status with which the job
finishes, and it fails with the error for which the job is dropped.

So a wait, and reapings of its child's job, one for each of its answers, come to the same
(`JobTable.await_agrees_with_reapings`).  The answers may come in any sequence: some system gives
them (`Replies.exists_hosts`).
-/

namespace JobShell

/-! ## What an answer means -/

namespace JobTable

/-- What a wait gives on an answer to which a job owes this fate. -/
def Fate.verdict? : Fate → Option (Except ProcessError Status)
  | finished status => some (.ok status)
  | kept => none
  | dropped errno => some (.error (.wait errno))

theorem verdict?_fate (answer : WaitAnswer) : (fate answer).verdict? = answer.verdict? := by
  cases answer with
  | failed errno =>
    simp only [fate, WaitAnswer.verdict?]
    by_cases h : errno = Errno.interrupted
    · rw [if_pos h, if_pos h]
      rfl
    · rw [if_neg h, if_neg h]
      rfl
  | _ => rfl

namespace Fate

variable {fate : Fate}

theorem verdict?_eq_ok_iff {status : Status} :
    fate.verdict? = some (.ok status) ↔ fate = .finished status := by
  cases fate <;> simp [verdict?]

theorem verdict?_eq_error_iff {errno : Errno} :
    fate.verdict? = some (.error (.wait errno)) ↔ fate = .dropped errno := by
  cases fate <;> simp [verdict?]

end Fate

end JobTable

/-! ## A wait, answer by answer -/

namespace Child

variable {σ : Type} [Host σ]

/-- Waits for a child, one right after the other, are given these answers. -/
def Answered (pid : Pid) : List WaitAnswer → σ → Prop
  | [], _ => True
  | answer :: later, host =>
    (Host.wait pid host).value = answer ∧ Answered pid later (Host.wait pid host).state

/-- A wait takes one answer after the other up to the first that is final, and gives what that one
means. -/
theorem await_answered {pid : Pid} {early : List WaitAnswer} {last : WaitAnswer}
    {result : Except ProcessError Status} (hearly : ∀ answer ∈ early, answer.isFinal = false)
    (hlast : last.verdict? = some result) {host : Recorded σ}
    (h : Answered pid (early ++ [last]) host) : (await pid host).value = result ∧
      (await pid host).state.record = host.record ++ (early ++ [last]).map (.waited pid) := by
  induction early generalizing host with
  | nil =>
    obtain ⟨hanswer, -⟩ := h
    obtain ⟨hvalue, hstate⟩ := await_final (by rw [hanswer]; exact hlast)
    rw [hstate, Recorded.record_wait, hanswer]
    exact ⟨hvalue, rfl⟩
  | cons answer early ih =>
    obtain ⟨hanswer, hlater⟩ := h
    obtain ⟨hopen, hearly⟩ := List.forall_mem_cons.mp hearly
    have hagain : (Host.wait pid host).value.verdict? = none := by
      rw [hanswer]
      exact WaitAnswer.verdict?_eq_none_iff.mpr hopen
    obtain ⟨hvalue, hstate⟩ := await_again hagain
    obtain ⟨hresult, hrecord⟩ := ih hearly hlater
    rw [hvalue, hstate, hrecord, Recorded.record_wait, hanswer, List.append_assoc]
    exact ⟨hresult, rfl⟩

end Child

/-! ## Any answers -/

/-- A system whose answers about its children are laid down; behind the last there is no such
child. -/
structure Replies where
  answers : List WaitAnswer

namespace Replies

def next (replies : Replies) : Outcome Output Replies WaitAnswer :=
  match replies.answers with
  | [] => ⟨.failed Errno.noChild, [], replies⟩
  | answer :: later => ⟨answer, [], ⟨later⟩⟩

theorem length_next_lt {replies : Replies} (h : replies.next.value.isFinal = false) :
    replies.next.state.answers.length < replies.answers.length := by
  obtain ⟨answers⟩ := replies
  cases answers with
  | nil => cases h
  | cons answer later => exact Nat.lt_succ_self _

instance : Host Replies where
  launch _ replies := ⟨.error Errno.noChild, [], replies⟩
  wait _ := next
  look _ := next
  takeChildNews replies := ⟨true, [], replies⟩
  watchChildren replies := ⟨.ok (), [], replies⟩
  catchInterrupts replies := ⟨.ok (), [], replies⟩
  changeDirectory _ replies := ⟨.ok (), [], replies⟩
  flush replies := ⟨.ok (), [], replies⟩
  home _ := none
  hostName _ := "host"
  userName _ := "user"
  now _ := 0
  patience _ replies := replies.answers.length
  patience_wait := length_next_lt

/-- The system with these answers before anything is asked. -/
def host (answers : List WaitAnswer) : Recorded Replies := ⟨⟨answers⟩, []⟩

theorem answered (pid : Pid) (answers : List WaitAnswer) (record : List Question) :
    Child.Answered pid answers (⟨⟨answers⟩, record⟩ : Recorded Replies) := by
  induction answers generalizing record with
  | nil => trivial
  | cons answer later ih => exact ⟨rfl, ih _⟩

/-- Whatever the answers, some system gives them to waits, and some moments give them to looks. -/
theorem exists_hosts (pid : Pid) (answers : List WaitAnswer) :
    ∃ (waits : Recorded Replies) (looks : List (Recorded Replies)),
      Child.Answered pid answers waits ∧
      looks.map (fun moment => (Host.look pid moment).value) = answers := by
  refine ⟨host answers, answers.map fun answer => host [answer], answered pid answers [], ?_⟩
  rw [List.map_map]
  exact List.map_id answers

end Replies

/-! ## Reapings of one job -/

namespace JobTable

section

variable {σ : Type} [Host σ] {table : JobTable} {job : Job} (hjobs : table.jobs = [job]) (host : σ)

include hjobs

/-- A reaping does with a single job what the answer demands. -/
theorem reap_single :
    (fate (Host.look job.pid host).value = .kept ∧ (table.reap host).value = ([], table)) ∨
    (∃ status elapsed, fate (Host.look job.pid host).value = .finished status ∧
      (table.reap host).value = ([⟨job, status, elapsed⟩], { table with jobs := [] })) ∨
    ∃ errno, fate (Host.look job.pid host).value = .dropped errno ∧
      (table.reap host).value = ([], { table with jobs := [] }) := by
  have hsettled : (table.reap host).value =
      ((settle job host).value.1 ++ [],
        { table with jobs := (settle job host).value.2 ++ [] }) := by
    simp only [reap, hjobs, Act.bind_value, Act.pure_apply, settleAll]
  rw [hsettled, List.append_nil, List.append_nil]
  simp only [settle, Act.bind_value, Act.ask_value]
  cases fate (Host.look job.pid host).value with
  | kept =>
    refine Or.inl ⟨rfl, ?_⟩
    show ([], { table with jobs := [job] }) = ([], table)
    rw [← hjobs]
  | finished status => exact Or.inr (Or.inl ⟨status, _, rfl, rfl⟩)
  | dropped errno => exact Or.inr (Or.inr ⟨errno, rfl, rfl⟩)

theorem reap_eq_self_iff :
    (table.reap host).value = ([], table) ↔ (Host.look job.pid host).value.isFinal = false := by
  have hheld : ({ table with jobs := [] } : JobTable) ≠ table := fun h => by
    rw [← h] at hjobs
    cases hjobs
  rw [← fate_eq_kept_iff]
  rcases reap_single hjobs host with
    ⟨hfate, hvalue⟩ | ⟨status, elapsed, hfate, hvalue⟩ | ⟨errno, hfate, hvalue⟩ <;>
    simp [hfate, hvalue, hheld]

theorem reap_finished_iff {status : Status} :
    (∃ finished, (table.reap host).value.1 = [finished] ∧ finished.status = status) ↔
      fate (Host.look job.pid host).value = .finished status := by
  rcases reap_single hjobs host with
    ⟨hfate, hvalue⟩ | ⟨status, elapsed, hfate, hvalue⟩ | ⟨errno, hfate, hvalue⟩ <;>
    simp [hfate, hvalue]

theorem job_of_mem_reap {finished : FinishedJob} (h : finished ∈ (table.reap host).value.1) :
    finished.job = job := by
  have hmem := (mem_reap h).1
  rw [hjobs] at hmem
  exact List.mem_singleton.mp hmem

theorem reap_dropped_iff :
    ((table.reap host).value.1 = [] ∧ (table.reap host).value.2.jobs = []) ↔
      ∃ errno, fate (Host.look job.pid host).value = .dropped errno := by
  rcases reap_single hjobs host with
    ⟨hfate, hvalue⟩ | ⟨status, elapsed, hfate, hvalue⟩ | ⟨errno, hfate, hvalue⟩ <;>
    simp [hfate, hvalue, hjobs]

end

section

variable {σ : Type} [Host σ]

/-- What is left of a table after reapings, each of which meets the host as it is at that moment. -/
def reapedAt (table : JobTable) (moments : List σ) : JobTable :=
  moments.foldl (fun left moment => (left.reap moment).value.2) table

/-- Reapings that find the table as it is leave it so. -/
theorem reapedAt_eq_self {table : JobTable} {moments : List σ}
    (hkept : ∀ moment ∈ moments, (table.reap moment).value = ([], table)) :
    table.reapedAt moments = table := by
  induction moments with
  | nil => rfl
  | cons moment moments ih =>
    obtain ⟨hmoment, hlater⟩ := List.forall_mem_cons.mp hkept
    show (table.reap moment).value.2.reapedAt moments = table
    rw [hmoment]
    exact ih hlater

end

/-- **Waiting and reaping agree on how a child ended.**  A wait for a child is given answers of
which only the last is final, and so are reapings of a table that holds nothing but a job of this
child, one answer each, whatever happens in between.  The wait asks once for each answer, about its
child and nothing else.  The reapings ask once each, and the job is kept by all but the last.  The
wait gives a status exactly if the last reaping returns one job, that of the child, as finished with
it; it fails exactly if the last reaping drops the job, and then with the error that was the last
answer. -/
theorem await_agrees_with_reapings {σ τ : Type} [Host σ] [Host τ] {table : JobTable} {job : Job}
    (hjobs : table.jobs = [job]) {early : List WaitAnswer} {last : WaitAnswer}
    (hearly : ∀ answer ∈ early, answer.isFinal = false) (hlast : last.isFinal = true)
    {host : Recorded σ} (hwaits : Child.Answered job.pid (early ++ [last]) host)
    {moments : List (Recorded τ)} {latest : Recorded τ}
    (hlooks : moments.map (fun moment => (Host.look job.pid moment).value) = early)
    (hlatest : (Host.look job.pid latest).value = last) :
    let waited := Child.await job.pid host
    let reaped := (table.reapedAt moments).reap latest
    Recorded.since host waited.state = (early ++ [last]).map (.waited job.pid) ∧
    (∀ moment ∈ moments ++ [latest], Recorded.since moment (table.reap moment).state =
      [.looked job.pid (Host.look job.pid moment).value]) ∧
    (∀ moment ∈ moments, (table.reap moment).value.1 = []) ∧
    (∀ count, table.reapedAt (moments.take count) = table) ∧
    (∀ status, waited.value = .ok status ↔
      ∃ finished, reaped.value.1 = [finished] ∧ finished.status = status) ∧
    (∀ finished ∈ reaped.value.1, finished.job = job) ∧
    ((∃ errno, waited.value = .error (.wait errno)) ↔
      reaped.value.1 = [] ∧ reaped.value.2.jobs = []) ∧
    ∀ errno, waited.value = .error (.wait errno) → last = .failed errno := by
  intro waited reaped
  have hkept : ∀ moment ∈ moments, (table.reap moment).value = ([], table) := by
    intro moment hmoment
    refine (reap_eq_self_iff hjobs moment).mpr (hearly _ ?_)
    rw [← hlooks]
    exact List.mem_map_of_mem hmoment
  have hreaped : reaped = table.reap latest :=
    congrArg (fun left : JobTable => left.reap latest) (reapedAt_eq_self hkept)
  obtain ⟨result, hresult⟩ : ∃ result, last.verdict? = some result := by
    refine Option.ne_none_iff_exists'.mp fun hnone => ?_
    rw [WaitAnswer.verdict?_eq_none_iff.mp hnone] at hlast
    cases hlast
  obtain ⟨hvalue, hrecord⟩ := Child.await_answered hearly hresult hwaits
  -- what the wait gives is told by the fate to which the last answer brings the job
  have hverdict : (fate last).verdict? = some waited.value := by
    rw [verdict?_fate, hresult, hvalue]
  have hok : ∀ status, waited.value = .ok status ↔ fate last = .finished status := fun status => by
    rw [← Fate.verdict?_eq_ok_iff, hverdict, Option.some.injEq]
  have herror : ∀ errno, waited.value = .error (.wait errno) ↔ fate last = .dropped errno :=
    fun errno => by rw [← Fate.verdict?_eq_error_iff, hverdict, Option.some.injEq]
  refine ⟨Recorded.since_eq hrecord, fun moment _ => Recorded.since_eq ?_,
    fun moment hmoment => by rw [hkept moment hmoment],
    fun count => reapedAt_eq_self fun moment hmoment => hkept moment (List.mem_of_mem_take hmoment),
    fun status => ?_, fun finished hfinished => ?_, ?_, fun errno hfails => ?_⟩
  · rw [record_reap, hjobs]
    rfl
  · rw [hok, hreaped, reap_finished_iff hjobs, hlatest]
  · rw [hreaped] at hfinished
    exact job_of_mem_reap hjobs latest hfinished
  · simp only [herror]
    rw [hreaped, reap_dropped_iff hjobs, hlatest]
  · exact (fate_eq_dropped_iff.mp ((herror errno).mp hfails)).1

/-- A child that is stopped and goes on while the questions about it are interrupted. -/
def hesitant : List WaitAnswer :=
  [.failed Errno.interrupted, .changed "Stopped(Pid(7), SIGTSTP)", .alive]

/-- A table with one job, which waits for news of its child. -/
def lone (job : Job) : JobTable := { jobs := [job], nextId := 5, signalDriven := true }

/-- Behind the same hesitation a killed child is told of by both, and one that somebody else has
collected fails the wait and is dropped. -/
theorem await_agrees_with_reapings_hesitant :
    let job : Job := ⟨4, ⟨7⟩, "sleep 1 ", 0⟩
    let moments := hesitant.map fun answer => Replies.host [answer]
    (∀ answer ∈ hesitant, answer.isFinal = false) ∧
    (Child.await ⟨7⟩ (Replies.host (hesitant ++ [.signaled .kill]))).value =
      .ok (.signaled .kill) ∧
    (∃ errno, (Child.await ⟨7⟩ (Replies.host (hesitant ++ [.failed Errno.noChild]))).value =
      .error (.wait errno)) ∧
    ∀ count, (lone job).reapedAt (moments.take count) = lone job := by
  intro job moments
  have hearly : ∀ answer ∈ hesitant, answer.isFinal = false := by decide
  have hlooks : moments.map (fun moment => (Host.look job.pid moment).value) = hesitant := rfl
  have hjobs : (lone job).jobs = [job] := rfl
  have hkill : (WaitAnswer.signaled .kill).isFinal = true := rfl
  have hgone : (WaitAnswer.failed Errno.noChild).isFinal = true := rfl
  have hwaits : ∀ last, Child.Answered job.pid (hesitant ++ [last])
      (Replies.host (hesitant ++ [last])) := fun last => Replies.answered _ _ []
  have hlatest : ∀ last, (Host.look job.pid (Replies.host [last])).value = last := fun _ => rfl
  obtain ⟨-, -, -, hkept, hstatus, -, -, -⟩ := await_agrees_with_reapings hjobs hearly hkill
    (hwaits _) hlooks (hlatest _)
  obtain ⟨-, -, -, -, -, -, hfails, -⟩ := await_agrees_with_reapings hjobs hearly hgone
    (hwaits _) hlooks (hlatest _)
  exact ⟨hearly, (hstatus _).mpr ⟨_, rfl, rfl⟩, hfails.mpr ⟨rfl, rfl⟩, hkept⟩

end JobTable

end JobShell
