import JobShell.JobTable
import JobShell.Proofs.Effects
import JobShell.Proofs.Recorded

/-!
# A reaping, answer by answer

A reaping asks one question for each job, in the order of the table (`answers`), and the answers
alone decide which jobs are kept, which have finished and how, and which are dropped:

    (reap table host).value.2.jobs = keptOf (table.jobs.zip (answers table.jobs host))  (jobs_reap)
    jobs and statuses of (reap table host).value.1 = finishedOf (…)                  (finished_reap)

No job is lost in between and none is counted twice (`perm_asked`).
-/

namespace JobShell

/-- The end of a child as an answer tells it. -/
def WaitAnswer.status? : WaitAnswer → Option Status
  | exited code => some (.exited code)
  | signaled signal => some (.signaled signal)
  | _ => none

/-- A final answer tells an end, or it is a failure other than by an interruption. -/
theorem WaitAnswer.isFinal_iff {answer : WaitAnswer} : answer.isFinal = true ↔
    (∃ status, answer.status? = some status) ∨
      ∃ errno, answer = .failed errno ∧ errno ≠ Errno.interrupted := by
  cases answer <;> simp [isFinal, status?]

namespace JobTable

/-! ## What the answers decide -/

theorem fate_eq_finished_iff {answer : WaitAnswer} {status : Status} :
    fate answer = .finished status ↔ answer.status? = some status := by
  cases answer with
  | failed errno => simp only [fate, WaitAnswer.status?]; split <;> simp
  | _ => simp [fate, WaitAnswer.status?]

theorem fate_eq_dropped_iff {answer : WaitAnswer} {errno : Errno} :
    fate answer = .dropped errno ↔ answer = .failed errno ∧ errno ≠ Errno.interrupted := by
  cases answer with
  | failed e =>
    simp only [fate, WaitAnswer.failed.injEq]
    by_cases h : e = Errno.interrupted
    · rw [if_pos h]
      constructor
      · intro h'; cases h'
      · rintro ⟨rfl, h'⟩; exact absurd h h'
    · rw [if_neg h]
      constructor
      · intro h'; cases h'; exact ⟨rfl, h⟩
      · rintro ⟨rfl, -⟩; rfl
  | _ => simp [fate]

/-- A job is kept on an answer that is not final. -/
theorem fate_eq_kept_iff {answer : WaitAnswer} : fate answer = .kept ↔ answer.isFinal = false := by
  cases answer with
  | failed errno =>
    simp only [fate, WaitAnswer.isFinal]
    by_cases h : errno = Errno.interrupted
    · simp [h]
    · simp [h]
  | _ => simp [fate, WaitAnswer.isFinal]

/-- The jobs whose ends are not told. -/
def keptOf (asked : List (Job × WaitAnswer)) : List Job :=
  asked.filterMap fun a => match fate a.2 with
    | .kept => some a.1
    | _ => none

/-- The jobs that have ended, and how. -/
def finishedOf (asked : List (Job × WaitAnswer)) : List (Job × Status) :=
  asked.filterMap fun a => match fate a.2 with
    | .finished status => some (a.1, status)
    | _ => none

/-- The jobs about which the question failed. -/
def droppedOf (asked : List (Job × WaitAnswer)) : List Job :=
  asked.filterMap fun a => match fate a.2 with
    | .dropped _ => some a.1
    | _ => none

theorem mem_keptOf {asked : List (Job × WaitAnswer)} {job : Job} :
    job ∈ keptOf asked ↔ ∃ answer, (job, answer) ∈ asked ∧ fate answer = .kept := by
  unfold keptOf
  rw [List.mem_filterMap]
  constructor
  · rintro ⟨⟨job', answer⟩, hmem, h⟩
    cases hfate : fate answer <;> simp only [hfate, Option.some.injEq] at h
    case kept =>
      subst h
      exact ⟨answer, hmem, hfate⟩
    all_goals cases h
  · rintro ⟨answer, hmem, h⟩
    exact ⟨(job, answer), hmem, by simp only [h]⟩

theorem mem_finishedOf {asked : List (Job × WaitAnswer)} {job : Job} {status : Status} :
    (job, status) ∈ finishedOf asked ↔
      ∃ answer, (job, answer) ∈ asked ∧ answer.status? = some status := by
  unfold finishedOf
  rw [List.mem_filterMap]
  constructor
  · rintro ⟨⟨job', answer⟩, hmem, h⟩
    cases hfate : fate answer <;> simp only [hfate, Option.some.injEq, Prod.mk.injEq] at h
    · obtain ⟨rfl, rfl⟩ := h
      exact ⟨answer, hmem, fate_eq_finished_iff.mp hfate⟩
    all_goals cases h
  · rintro ⟨answer, hmem, h⟩
    exact ⟨(job, answer), hmem, by simp only [fate_eq_finished_iff.mpr h]⟩

theorem mem_droppedOf {asked : List (Job × WaitAnswer)} {job : Job} :
    job ∈ droppedOf asked ↔
      ∃ errno, (job, .failed errno) ∈ asked ∧ errno ≠ Errno.interrupted := by
  unfold droppedOf
  rw [List.mem_filterMap]
  constructor
  · rintro ⟨⟨job', answer⟩, hmem, h⟩
    cases hfate : fate answer <;> simp only [hfate, Option.some.injEq] at h
    case dropped errno =>
      obtain ⟨rfl, herrno⟩ := fate_eq_dropped_iff.mp hfate
      subst h
      exact ⟨errno, hmem, herrno⟩
    all_goals cases h
  · rintro ⟨errno, hmem, herrno⟩
    exact ⟨(job, .failed errno), hmem, by simp only [fate_eq_dropped_iff.mpr ⟨rfl, herrno⟩]⟩

/-- Kept are the jobs about which no answer was final. -/
theorem keptOf_eq (asked : List (Job × WaitAnswer)) :
    keptOf asked = (asked.filter fun a => !a.2.isFinal).map (·.1) := by
  unfold keptOf
  rw [← List.filterMap_eq_map, List.filterMap_filter]
  refine congrArg (asked.filterMap ·) (funext fun a => ?_)
  cases hfinal : a.2.isFinal with
  | false =>
    rw [fate_eq_kept_iff.mpr hfinal]
    rfl
  | true =>
    have hnot : fate a.2 ≠ .kept := fun hkept => by
      rw [fate_eq_kept_iff.mp hkept] at hfinal
      cases hfinal
    cases hfate : fate a.2 with
    | kept => exact absurd hfate hnot
    | finished status => rfl
    | dropped errno => rfl

/-- Finished are the jobs of whose ends an answer told, as it told of them. -/
theorem finishedOf_eq (asked : List (Job × WaitAnswer)) :
    finishedOf asked = asked.filterMap fun a => a.2.status?.map (a.1, ·) := by
  unfold finishedOf
  refine congrArg (asked.filterMap ·) (funext fun a => ?_)
  cases hstatus : a.2.status? with
  | some status =>
    rw [fate_eq_finished_iff.mpr hstatus]
    rfl
  | none =>
    have hnot : ∀ status, fate a.2 ≠ .finished status := fun status hfate => by
      rw [fate_eq_finished_iff.mp hfate] at hstatus
      cases hstatus
    cases hfate : fate a.2 with
    | finished status => exact absurd hfate (hnot status)
    | kept => rfl
    | dropped errno => rfl

/-- Each job that was asked about is kept, has finished or is dropped, and is so once. -/
theorem perm_asked (asked : List (Job × WaitAnswer)) :
    (keptOf asked ++ ((finishedOf asked).map (·.1) ++ droppedOf asked)).Perm
      (asked.map (·.1)) := by
  induction asked with
  | nil => exact List.Perm.refl _
  | cons a asked ih =>
    unfold keptOf finishedOf droppedOf at ih ⊢
    simp only [List.filterMap_cons, List.map_cons]
    cases fate a.2 with
    | kept => exact ih.cons a.1
    | finished status => exact List.perm_middle.trans (ih.cons a.1)
    | dropped errno =>
      rw [← List.append_assoc] at ih ⊢
      exact List.perm_middle.trans (ih.cons a.1)

theorem keptOf_sublist (asked : List (Job × WaitAnswer)) :
    (keptOf asked).Sublist (asked.map (·.1)) := by
  induction asked with
  | nil => exact List.Sublist.refl _
  | cons a asked ih =>
    unfold keptOf at ih ⊢
    simp only [List.filterMap_cons, List.map_cons]
    cases fate a.2 with
    | kept => exact ih.cons_cons a.1
    | finished status => exact ih.cons a.1
    | dropped errno => exact ih.cons a.1

theorem finishedOf_sublist (asked : List (Job × WaitAnswer)) :
    ((finishedOf asked).map (·.1)).Sublist (asked.map (·.1)) := by
  induction asked with
  | nil => exact List.Sublist.refl _
  | cons a asked ih =>
    unfold finishedOf at ih ⊢
    simp only [List.filterMap_cons, List.map_cons]
    cases fate a.2 with
    | kept => exact ih.cons a.1
    | finished status => exact ih.cons_cons a.1
    | dropped errno => exact ih.cons a.1

/-! ## The scan -/

variable {σ : Type} [Host σ]

/-- The answers to the questions of a scan. -/
def answers : List Job → σ → List WaitAnswer
  | [], _ => []
  | job :: rest, host =>
    (Host.look job.pid host).value :: answers rest (Host.look job.pid host).state

theorem length_answers (jobs : List Job) (host : σ) :
    (answers jobs host).length = jobs.length := by
  induction jobs generalizing host with
  | nil => rfl
  | cons job rest ih => simp only [answers, List.length_cons, ih]

theorem map_fst_asked (jobs : List Job) (host : σ) :
    (jobs.zip (answers jobs host)).map (·.1) = jobs :=
  List.map_fst_zip (Nat.le_of_eq (length_answers jobs host).symm)

@[simp] theorem remark_state (pid : Pid) (answer : WaitAnswer) (host : σ) :
    (remark pid answer host).state = host := by
  cases answer <;> rfl

@[simp] theorem meet_state (job : Job) (verdict : Fate) (host : σ) :
    (meet job verdict host).state = host := by
  cases verdict <;> rfl

@[simp] theorem settle_state (job : Job) (host : σ) :
    (settle job host).state = (Host.look job.pid host).state := by
  simp only [settle, Act.bind_state, meet_state, remark_state, Act.ask_state]

theorem settle_kept (job : Job) (host : σ) :
    (settle job host).value.2 = keptOf [(job, (Host.look job.pid host).value)] := by
  simp only [settle, Act.bind_value, Act.ask_value, keptOf, List.filterMap_cons,
    List.filterMap_nil]
  cases fate (Host.look job.pid host).value <;> rfl

theorem settle_finished (job : Job) (host : σ) :
    (settle job host).value.1.map (fun f => (f.job, f.status)) =
      finishedOf [(job, (Host.look job.pid host).value)] := by
  simp only [settle, Act.bind_value, Act.ask_value, finishedOf, List.filterMap_cons,
    List.filterMap_nil]
  cases fate (Host.look job.pid host).value <;> rfl

theorem mem_settle_kept {job other : Job} {host : σ} :
    other ∈ (settle job host).value.2 ↔
      other = job ∧ fate (Host.look job.pid host).value = .kept := by
  rw [settle_kept, mem_keptOf]
  constructor
  · rintro ⟨answer, hpair, hfate⟩
    rw [List.mem_singleton, Prod.mk.injEq] at hpair
    obtain ⟨hjob, rfl⟩ := hpair
    exact ⟨hjob, hfate⟩
  · rintro ⟨rfl, hfate⟩
    exact ⟨_, List.mem_singleton_self _, hfate⟩

theorem mem_settle_finished {job : Job} {host : σ} {f : FinishedJob}
    (h : f ∈ (settle job host).value.1) :
    f.job = job ∧ (Host.look job.pid host).value.status? = some f.status := by
  have hmem : (f.job, f.status) ∈ finishedOf [(job, (Host.look job.pid host).value)] := by
    rw [← settle_finished]
    exact List.mem_map_of_mem h
  obtain ⟨answer, hpair, hstatus⟩ := mem_finishedOf.mp hmem
  rw [List.mem_singleton, Prod.mk.injEq] at hpair
  obtain ⟨hjob, rfl⟩ := hpair
  exact ⟨hjob, hstatus⟩

@[simp] theorem settleAll_cons_value (job : Job) (rest : List Job) (host : σ) :
    (settleAll (job :: rest) host).value =
      ((settle job host).value.1 ++ (settleAll rest (Host.look job.pid host).state).value.1,
       (settle job host).value.2 ++ (settleAll rest (Host.look job.pid host).state).value.2) := by
  simp only [settleAll, Act.bind_value, settle_state, Act.pure_apply]

@[simp] theorem settleAll_cons_state (job : Job) (rest : List Job) (host : σ) :
    (settleAll (job :: rest) host).state =
      (settleAll rest (Host.look job.pid host).state).state := by
  simp only [settleAll, Act.bind_state, settle_state, Act.pure_apply]

theorem settleAll_kept (jobs : List Job) (host : σ) :
    (settleAll jobs host).value.2 = keptOf (jobs.zip (answers jobs host)) := by
  induction jobs generalizing host with
  | nil => rfl
  | cons job rest ih =>
    rw [settleAll_cons_value, settle_kept, ih, answers, List.zip_cons_cons]
    unfold keptOf
    rw [← List.filterMap_append]
    rfl

theorem settleAll_finished (jobs : List Job) (host : σ) :
    (settleAll jobs host).value.1.map (fun f => (f.job, f.status)) =
      finishedOf (jobs.zip (answers jobs host)) := by
  induction jobs generalizing host with
  | nil => rfl
  | cons job rest ih =>
    rw [settleAll_cons_value, List.map_append, settle_finished, ih, answers, List.zip_cons_cons]
    unfold finishedOf
    rw [← List.filterMap_append]
    rfl

/-! ## Watching, tracking, reaping and polling -/

theorem watch_value (table : JobTable) (host : σ) :
    (table.watch host).value = match (Host.watchChildren host).value with
      | .error text => (.error (.signalError text), table)
      | .ok () => (.ok (), { table with signalDriven := true }) := by
  unfold watch
  rw [Act.bind_value, Act.ask_value]
  cases (Host.watchChildren host).value <;> rfl

@[simp] theorem watch_state (table : JobTable) (host : σ) :
    (table.watch host).state = (Host.watchChildren host).state := by
  unfold watch
  rw [Act.bind_state, Act.ask_value, Act.ask_state]
  cases (Host.watchChildren host).value <;> rfl

/-- A table can only come to wait for news if the host has agreed to tell of it. -/
theorem watch_ok {table : JobTable} {host : σ} (h : (table.watch host).value.1 = .ok ()) :
    (Host.watchChildren host).value = .ok () ∧
      (table.watch host).value.2 = { table with signalDriven := true } := by
  rw [watch_value] at h ⊢
  cases hanswer : (Host.watchChildren host).value with
  | error text =>
    rw [hanswer] at h
    cases h
  | ok _ => exact ⟨rfl, rfl⟩

theorem track_value (table : JobTable) (pid : Pid) (command : String) (host : σ) :
    (table.track pid command host).value =
      (table.nextId, { table with
        jobs := table.jobs ++ [⟨table.nextId, pid, command, Host.now host⟩]
        nextId := table.nextId + 1 }) := rfl

@[simp] theorem track_state (table : JobTable) (pid : Pid) (command : String) (host : σ) :
    (table.track pid command host).state = host := rfl

theorem jobs_reap (table : JobTable) (host : σ) :
    (table.reap host).value.2.jobs = keptOf (table.jobs.zip (answers table.jobs host)) :=
  settleAll_kept table.jobs host

theorem finished_reap (table : JobTable) (host : σ) :
    (table.reap host).value.1.map (fun f => (f.job, f.status)) =
      finishedOf (table.jobs.zip (answers table.jobs host)) :=
  settleAll_finished table.jobs host

/-- A reaping returns jobs of the table with the ends that answers tell. -/
theorem mem_reap {table : JobTable} {host : σ} {finished : FinishedJob}
    (h : finished ∈ (table.reap host).value.1) : finished.job ∈ table.jobs ∧
      ∃ answer : WaitAnswer, answer.status? = some finished.status := by
  have hmem : (finished.job, finished.status) ∈
      finishedOf (table.jobs.zip (answers table.jobs host)) := by
    rw [← finished_reap]
    exact List.mem_map_of_mem (f := fun f : FinishedJob => (f.job, f.status)) h
  obtain ⟨answer, hasked, hstatus⟩ := mem_finishedOf.mp hmem
  exact ⟨(List.of_mem_zip hasked).1, answer, hstatus⟩

theorem poll_nil {table : JobTable} (hjobs : table.jobs = []) :
    table.poll = (pure ([], table) : Act σ (List FinishedJob × JobTable)) := by
  unfold poll
  rw [if_pos (by rw [hjobs]; rfl)]

theorem poll_plain {table : JobTable} (hjobs : table.jobs ≠ [])
    (hplain : table.signalDriven = false) : table.poll = (table.reap : Act σ _) := by
  unfold poll
  rw [if_neg (by simpa using hjobs), if_neg (by rw [hplain]; exact Bool.false_ne_true)]

/-- A table that waits for news reaps after the news has been taken, or not at all. -/
theorem poll_driven {table : JobTable} (hjobs : table.jobs ≠ [])
    (hdriven : table.signalDriven = true) :
    table.poll = (do
      let news ← Act.ask Host.takeChildNews
      if news then table.reap else pure ([], table) : Act σ _) := by
  unfold poll
  rw [if_neg (by simpa using hjobs), if_pos hdriven]

/-- Polling leaves the table as it is, or it reaps, after at most one question about news. -/
theorem poll_cases (table : JobTable) (host : σ) :
    ∃ host', (host' = host ∨ host' = (Host.takeChildNews host).state) ∧
      (((table.poll host).value = ([], table) ∧ (table.poll host).state = host') ∨
        ((table.poll host).value = (table.reap host').value ∧
          (table.poll host).state = (table.reap host').state)) := by
  by_cases hjobs : table.jobs = []
  · rw [poll_nil hjobs]
    exact ⟨host, Or.inl rfl, Or.inl ⟨rfl, rfl⟩⟩
  · cases hdriven : table.signalDriven with
    | false =>
      rw [poll_plain hjobs hdriven]
      exact ⟨host, Or.inl rfl, Or.inr ⟨rfl, rfl⟩⟩
    | true =>
      rw [poll_driven hjobs hdriven]
      refine ⟨_, Or.inr rfl, ?_⟩
      rw [Act.bind_value, Act.bind_state, Act.ask_value, Act.ask_state]
      split
      · exact Or.inr ⟨rfl, rfl⟩
      · exact Or.inl ⟨rfl, rfl⟩

/-- A poll changes nothing of a table but its jobs. -/
theorem poll_table (table : JobTable) (host : σ) :
    (table.poll host).value.2 = { table with jobs := (table.poll host).value.2.jobs } := by
  obtain ⟨host', -, ⟨hvalue, -⟩ | ⟨hvalue, -⟩⟩ := poll_cases table host
  · rw [hvalue]
  · rw [hvalue]
    rfl

/-! ## What a scan asks -/

/-- The questions of a scan in which jobs got these answers. -/
def looks (asked : List (Job × WaitAnswer)) : List Question :=
  asked.map fun a => .looked a.1.pid a.2

theorem ofChild?_looks (asked : List (Job × WaitAnswer)) :
    (looks asked).filterMap Question.ofChild? = asked.map fun a => (a.1.pid, a.2) := by
  unfold looks
  rw [List.filterMap_map, ← List.filterMap_eq_map]
  rfl

theorem record_settleAll (jobs : List Job) (host : Recorded σ) :
    (settleAll jobs host).state.record =
      host.record ++ looks (jobs.zip (answers jobs host)) := by
  induction jobs generalizing host with
  | nil => exact (List.append_nil _).symm
  | cons job rest ih =>
    rw [settleAll_cons_state, ih, Recorded.record_look, List.append_assoc]
    rfl

theorem record_reap (table : JobTable) (host : Recorded σ) :
    (table.reap host).state.record =
      host.record ++ looks (table.jobs.zip (answers table.jobs host)) :=
  record_settleAll table.jobs host

end JobTable

end JobShell
