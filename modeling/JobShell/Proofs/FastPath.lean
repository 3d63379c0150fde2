import JobShell.Proofs.Accounting
import JobShell.Proofs.Reaping
import JobShell.Proofs.Simulation

/-!
# Waiting for news is as good as looking

A table that waits for news leaves out whole scans on the word of one mark, which all children of
the shell share, which changes other than ends set too, and which stays when a table without jobs is
polled.  Still it returns at each poll what a table returns that scans every time, and keeps the
same jobs (`driven_polls_as_plain`).

Both tables go through one history, each on a host of its own at which nothing happens but what the
history says (`StillHost`).  `Matched` relates the two: the children are the same, and where the
mark is not set a scan would find only children that run.  `Polling.Matched.step` is one move and
`Polling.Matched.run` any history.
-/

namespace JobShell

open ProcessHost (kernel)

namespace Kernel

/-! ## What can happen between two calls -/

/-- One thing that happens to the children of the shell. -/
inductive Event
  | started (argv : Argv) (pid : Pid)
  | ended (pid : Pid) (e : Ending)
  /-- A child changed in a way that is not its end. -/
  | stirred
  /-- A child that had ended was collected by a wait of its own. -/
  | collected (pid : Pid)

/-- The child at this number ends, if there is one that runs. -/
def endAt (k : Kernel) (pid : Pid) (e : Ending) : Kernel :=
  match hchild : k.children pid with
  | none => k
  | some child => if k.ending child = none then k.finish hchild e else k

/-- What an event makes of the children; one that cannot happen makes nothing of them. -/
def undergo (k : Kernel) : Event → Kernel
  | .started argv pid => if k.children pid = none then k.start argv pid else k
  | .ended pid e => k.endAt pid e
  | .stirred => k.stir
  | .collected pid => if (k.children pid).bind k.ending = none then k else k.collect pid

/-- The child at this number has not ended. -/
def Runs (k : Kernel) (pid : Pid) : Prop :=
  ∃ child, k.children pid = some child ∧ k.ending child = none

variable {k l k' l' : Kernel} {pid : Pid} {pids : List Pid} {polled : Kernel}

theorem endAt_eq_finish {child : Nat} (hchild : k.children pid = some child)
    (hruns : k.ending child = none) (e : Ending) : k.endAt pid e = k.finish hchild e := by
  unfold endAt
  split
  · rename_i hnone
    rw [hchild] at hnone
    cases hnone
  · rename_i other hother
    have heq : child = other := Option.some.inj (hchild.symm.trans hother)
    subst heq
    exact if_pos hruns

theorem endAt_of_not_runs (h : ¬ k.Runs pid) (e : Ending) : k.endAt pid e = k := by
  unfold endAt
  split
  · rfl
  · rename_i child hchild
    exact if_neg fun hruns => h ⟨child, hchild, hruns⟩

/-! ## The same children, told of or not -/

/-- The same children, of which the shell may have asked to be told or not. -/
structure Alike (k l : Kernel) : Prop where
  born : k.born = l.born
  children : k.children = l.children
  ending : k.ending = l.ending

theorem Alike.runs (h : Alike k l) : k.Runs pid ↔ l.Runs pid := by
  unfold Runs
  rw [h.children, h.ending]

theorem Alike.collect (h : Alike k l) (pid : Pid) : Alike (k.collect pid) (l.collect pid) where
  born := h.born
  children := by simp only [Kernel.collect, h.children]
  ending := h.ending

/-- What happens to the children does not depend on who is told of it. -/
theorem Alike.undergo (h : Alike k l) (event : Event) :
    Alike (k.undergo event) (l.undergo event) := by
  cases event with
  | started argv pid =>
    simp only [Kernel.undergo, h.children]
    split
    · exact ⟨by simp only [start, h.born], by simp only [start, h.born, h.children], h.ending⟩
    · exact h
  | ended pid e =>
    by_cases hruns : k.Runs pid
    · obtain ⟨child, hchild, hending⟩ := hruns
      simp only [Kernel.undergo]
      rw [endAt_eq_finish hchild hending e,
        endAt_eq_finish (h.children ▸ hchild) (h.ending ▸ hending) e]
      exact ⟨h.born, h.children, by simp only [finish, h.ending]⟩
    · simp only [Kernel.undergo]
      rw [endAt_of_not_runs hruns e, endAt_of_not_runs (h.runs.not.mp hruns) e]
      exact h
  | stirred => exact ⟨h.born, h.children, h.ending⟩
  | collected pid =>
    simp only [Kernel.undergo, h.children, h.ending]
    split
    · exact h
    · exact h.collect pid

/-- Where the children are the same, a look is answered the same and leaves them the same. -/
theorem Alike.looks (h : Alike k l) {answer answer' : WaitAnswer} (hk : Looks pid k answer k')
    (hl : Looks pid l answer' l') : answer = answer' ∧ Alike k' l' := by
  cases hk with
  | running hchild hruns =>
    rw [h.children] at hchild
    rw [h.ending] at hruns
    cases hl <;> simp_all
  | collected hchild hended =>
    rw [h.children] at hchild
    rw [h.ending] at hended
    cases hl <;> simp_all
    exact h.collect pid
  | unknown hnone =>
    rw [h.children] at hnone
    cases hl <;> simp_all

/-! ## A calm -/

/-- A scan would find only children that run at these numbers, and no child has ended since the
table was polled. -/
structure Calm (k : Kernel) (pids : List Pid) (polled : Kernel) : Prop where
  tracked : ∀ pid ∈ pids, k.Runs pid
  recent : ∀ child, polled.ending child = none → k.ending child = none

/-- A shell that is told of its children has been told of what a scan would find. -/
structure Warned (k : Kernel) (pids : List Pid) (polled : Kernel) : Prop where
  watched : k.watched = true
  told : k.news = true ∨ k.Calm pids polled

/-- Where the children that are looked at run there is a calm from now on. -/
theorem calm_of_runs (h : ∀ pid ∈ pids, k.Runs pid) : k.Calm pids k := ⟨h, fun _ h => h⟩

theorem Warned.calm (h : k.Warned pids polled) (hnews : k.news = false) : k.Calm pids polled :=
  h.told.resolve_left (by rw [hnews]; exact Bool.false_ne_true)

/-- A start, or the collection of a child that had ended, leaves those that run. -/
theorem Runs.of_update {other : Pid} {found : Option Nat} (h : k.Runs other)
    (hchildren : k'.children = Function.update k.children pid found)
    (hending : k'.ending = k.ending) (hpid : ¬ k.Runs pid) : k'.Runs other := by
  obtain ⟨child, hchild, hruns⟩ := h
  have hne : other ≠ pid := by
    rintro rfl
    exact hpid ⟨child, hchild, hruns⟩
  refine ⟨child, ?_, hending ▸ hruns⟩
  rw [hchildren, Function.update_of_ne hne]
  exact hchild

theorem Warned.of_update {found : Option Nat} (h : k.Warned pids polled)
    (hchildren : k'.children = Function.update k.children pid found)
    (hending : k'.ending = k.ending) (hwatched : k'.watched = k.watched)
    (hnews : k'.news = k.news) (hpid : ¬ k.Runs pid) :
    k'.Warned pids polled where
  watched := hwatched.trans h.watched
  told := by
    rw [hnews]
    exact h.told.imp_right fun hcalm =>
      ⟨fun other hother => (hcalm.tracked other hother).of_update hchildren hending hpid,
        fun child hpolled => hending ▸ hcalm.recent child hpolled⟩

theorem Warned.of_mark (hwatched : k'.watched = true) (hnews : k'.news = (k.news || k.watched))
    (h : k.watched = true) : k'.Warned pids polled :=
  ⟨hwatched, Or.inl (by rw [hnews, h, Bool.or_true])⟩

theorem Warned.undergo (h : k.Warned pids polled) (event : Event) :
    (k.undergo event).Warned pids polled := by
  cases event with
  | started argv pid =>
    simp only [Kernel.undergo]
    split
    · rename_i hfree
      refine h.of_update rfl rfl rfl rfl ?_
      rintro ⟨child, hchild, -⟩
      rw [hfree] at hchild
      cases hchild
    · exact h
  | ended pid e =>
    simp only [Kernel.undergo]
    by_cases hruns : k.Runs pid
    · obtain ⟨child, hchild, hending⟩ := hruns
      rw [endAt_eq_finish hchild hending e]
      exact Warned.of_mark h.watched rfl h.watched
    · rw [endAt_of_not_runs hruns e]
      exact h
  | stirred => exact Warned.of_mark h.watched rfl h.watched
  | collected pid =>
    simp only [Kernel.undergo]
    split
    · exact h
    · rename_i hended
      refine h.of_update rfl rfl rfl rfl ?_
      rintro ⟨child, hchild, hruns⟩
      rw [hchild] at hended
      exact hended hruns

/-- A look leaves the children that run. -/
theorem Looks.runs {other : Pid} {answer : WaitAnswer} (h : Looks pid k answer k')
    (hruns : k.Runs other) : k'.Runs other := by
  cases h with
  | running => exact hruns
  | @collected child e hchild hended =>
    refine hruns.of_update rfl rfl ?_
    rintro ⟨child', hchild', hrunning⟩
    rw [hchild, Option.some.injEq] at hchild'
    rw [← hchild', hended] at hrunning
    cases hrunning
  | unknown => exact hruns

/-- A job is kept only if its child was found running. -/
theorem Looks.runs_of_kept {answer : WaitAnswer} (h : Looks pid k answer k')
    (hkept : JobTable.fate answer = .kept) : k.Runs pid := by
  cases h with
  | running hchild hruns => exact ⟨_, hchild, hruns⟩
  | @collected child e => exact absurd hkept e.fate_answer_ne_kept
  | unknown => exact absurd hkept (by decide)

theorem Looks.of_runs {answer : WaitAnswer} (h : Looks pid k answer k') (hruns : k.Runs pid) :
    answer = .alive ∧ k' = k := by
  obtain ⟨child, hchild, hrunning⟩ := hruns
  cases h with
  | running => exact ⟨rfl, rfl⟩
  | @collected child' e hchild' hended =>
    rw [hchild, Option.some.injEq] at hchild'
    rw [← hchild', hrunning] at hended
    cases hended
  | unknown hnone =>
    rw [hchild] at hnone
    cases hnone

theorem Tells.eq {told : Bool} (h : Tells k told k') : told = k.news ∧ k' = k.takeNews := by
  cases h
  exact ⟨rfl, rfl⟩

theorem Watches.alike {answer : Except String Unit} (h : Watches k answer k') : Alike k' k := by
  cases h <;> exact ⟨rfl, rfl, rfl⟩

theorem Watches.watched {answer : Except String Unit} (h : Watches k answer k')
    (hanswer : answer = .ok ()) : k'.watched = true := by
  cases h with
  | watching => rfl
  | refused => cases hanswer

/-- A child that is tracked while a calm may not have ended before has not ended. -/
theorem Warned.track {child : Nat} (h : k.Warned pids polled) (hchild : k.children pid = some child)
    (hpolled : polled.ending child = none) : k.Warned (pids ++ [pid]) polled where
  watched := h.watched
  told := h.told.imp_right fun hcalm =>
    ⟨fun other hother => by
      rcases List.mem_append.mp hother with hother | hother
      · exact hcalm.tracked other hother
      · rw [List.mem_singleton.mp hother]
        exact ⟨child, hchild, hcalm.recent child hpolled⟩, hcalm.recent⟩

end Kernel

/-! ## A host that stands still -/

/-- A host at which nothing happens but what it is asked for and what it is made to undergo. -/
class StillHost (σ : Type) [Host σ] extends ProcessHost σ where
  undergo (event : Kernel.Event) (host : σ) : σ
  kernel_undergo (event : Kernel.Event) (host : σ) :
    kernel (undergo event host) = (kernel host).undergo event
  looks {pid : Pid} (hpos : 0 < pid.number) (host : σ) :
    Kernel.Looks pid (kernel host) (Host.look pid host).value (kernel (Host.look pid host).state)
  tells (host : σ) : Kernel.Tells (kernel host) (Host.takeChildNews host).value
    (kernel (Host.takeChildNews host).state)
  watches (host : σ) : Kernel.Watches (kernel host) (Host.watchChildren host).value
    (kernel (Host.watchChildren host).state)

namespace JobTable

/-! ## Two scans of the same jobs -/

variable {jobs others : List Job}

/-- What is picked by the answers, and said without the times of the jobs, is the same of jobs with
the same tickets. -/
theorem filterMap_tickets {α β : Type} {pick : Job × WaitAnswer → Option α} {say : α → β}
    (hpick : ∀ {job other : Job} (answer : WaitAnswer), job.ticket = other.ticket →
      (pick (job, answer)).map say = (pick (other, answer)).map say)
    (h : jobs.map Job.ticket = others.map Job.ticket) (told : List WaitAnswer) :
    ((jobs.zip told).filterMap pick).map say = ((others.zip told).filterMap pick).map say := by
  induction jobs generalizing others told with
  | nil =>
    cases others with
    | nil => rfl
    | cons => cases h
  | cons job rest ih =>
    cases others with
    | nil => cases h
    | cons other others =>
      cases told with
      | nil => rfl
      | cons answer told =>
        obtain ⟨hjob, hrest⟩ := List.cons.inj h
        have hfirst := hpick answer hjob
        have hlater := ih hrest told
        rw [List.map_filterMap, List.map_filterMap] at hlater ⊢
        rw [List.zip_cons_cons, List.zip_cons_cons, List.filterMap_cons, List.filterMap_cons,
          hfirst, hlater]

theorem keptOf_tickets (h : jobs.map Job.ticket = others.map Job.ticket)
    (told : List WaitAnswer) :
    (keptOf (jobs.zip told)).map Job.ticket = (keptOf (others.zip told)).map Job.ticket := by
  refine filterMap_tickets (fun answer hticket => ?_) h told
  cases fate answer <;> simp only [Option.map_some, Option.map_none, hticket]

theorem finishedOf_tickets (h : jobs.map Job.ticket = others.map Job.ticket)
    (told : List WaitAnswer) :
    (finishedOf (jobs.zip told)).map (fun f => (f.1.ticket, f.2)) =
      (finishedOf (others.zip told)).map (fun f => (f.1.ticket, f.2)) := by
  refine filterMap_tickets (fun answer hticket => ?_) h told
  cases fate answer <;> simp only [Option.map_some, Option.map_none, hticket]

theorem pids_map_ticket (jobs : List Job) :
    (jobs.map Job.ticket).map Ticket.pid = jobs.map (·.pid) := List.map_map

theorem pids_eq_of_tickets (h : jobs.map Job.ticket = others.map Job.ticket) :
    jobs.map (·.pid) = others.map (·.pid) := by
  rw [← pids_map_ticket, ← pids_map_ticket, h]

/-- What a scan returns, but for the time it took. -/
def reported (finished : List FinishedJob) : List (Ticket × Status) :=
  finished.map fun f => (f.job.ticket, f.status)

theorem reported_eq (finished : List FinishedJob) : reported finished =
    (finished.map fun f => (f.job, f.status)).map fun f => (f.1.ticket, f.2) := by
  unfold reported
  rw [List.map_map]
  rfl

variable {σ : Type} [Host σ] [StillHost σ]

/-- Scans of the same jobs get the same answers where the children are the same. -/
theorem answers_alike {host host' : σ} (hpids : jobs.map (·.pid) = others.map (·.pid))
    (hpos : ∀ pid ∈ jobs.map (·.pid), 0 < pid.number) (h : (kernel host).Alike (kernel host')) :
    answers jobs host = answers others host' ∧
      (kernel (settleAll jobs host).state).Alike (kernel (settleAll others host').state) := by
  induction jobs generalizing others host host' with
  | nil =>
    cases others with
    | nil => exact ⟨rfl, h⟩
    | cons => cases hpids
  | cons job rest ih =>
    cases others with
    | nil => cases hpids
    | cons other others =>
      obtain ⟨hhead, hrest⟩ := List.cons.inj hpids
      have hpid : job.pid = other.pid := hhead
      rw [List.map_cons, List.forall_mem_cons] at hpos
      obtain ⟨hanswer, halike⟩ :=
        h.looks (StillHost.looks hpos.1 host) (StillHost.looks hpos.1 host')
      obtain ⟨hanswers, hscanned⟩ := ih hrest hpos.2 halike
      rw [settleAll_cons_state, settleAll_cons_state, answers, answers, ← hpid]
      exact ⟨by rw [hanswer, hanswers], hscanned⟩

/-- What looks leave as it is, a scan leaves as it is. -/
theorem settleAll_leaves {p : Kernel → Prop}
    (hlook : ∀ {pid answer k k'}, Kernel.Looks pid k answer k' → p k → p k') {host : σ}
    (hpos : ∀ pid ∈ jobs.map (·.pid), 0 < pid.number) (h : p (kernel host)) :
    p (kernel (settleAll jobs host).state) := by
  induction jobs generalizing host with
  | nil => exact h
  | cons job rest ih =>
    rw [List.map_cons, List.forall_mem_cons] at hpos
    rw [settleAll_cons_state]
    exact ih hpos.2 (hlook (StillHost.looks hpos.1 host) h)

/-- The children of the jobs that a scan keeps run. -/
theorem runs_of_kept {host : σ} (hpos : ∀ pid ∈ jobs.map (·.pid), 0 < pid.number) :
    ∀ pid ∈ (settleAll jobs host).value.2.map (·.pid),
      (kernel (settleAll jobs host).state).Runs pid := by
  induction jobs generalizing host with
  | nil => intro pid hpid; cases hpid
  | cons job rest ih =>
    rw [List.map_cons, List.forall_mem_cons] at hpos
    intro pid hpid
    rw [settleAll_cons_value, List.map_append] at hpid
    rw [settleAll_cons_state]
    rcases List.mem_append.mp hpid with hpid | hpid
    · obtain ⟨kept, hkept, rfl⟩ := List.mem_map.mp hpid
      obtain ⟨rfl, hfate⟩ := mem_settle_kept.mp hkept
      have hlook := StillHost.looks hpos.1 host
      exact settleAll_leaves (fun h => h.runs) hpos.2 (hlook.runs (hlook.runs_of_kept hfate))
    · exact ih hpos.2 pid hpid

/-- A scan of children that run keeps all jobs and changes nothing. -/
theorem settleAll_of_runs {host : σ} (hpos : ∀ pid ∈ jobs.map (·.pid), 0 < pid.number)
    (hruns : ∀ pid ∈ jobs.map (·.pid), (kernel host).Runs pid) :
    (settleAll jobs host).value = ([], jobs) ∧
      kernel (settleAll jobs host).state = kernel host := by
  induction jobs generalizing host with
  | nil => exact ⟨rfl, rfl⟩
  | cons job rest ih =>
    rw [List.map_cons, List.forall_mem_cons] at hpos hruns
    obtain ⟨halive, hsame⟩ := (StillHost.looks hpos.1 host).of_runs hruns.1
    have hsettle : (settle job host).value = ([], [job]) := by
      unfold settle
      rw [Act.bind_value, Act.ask_value, halive]
      rfl
    obtain ⟨hvalue, hstate⟩ := ih hpos.2 (hsame ▸ hruns.2)
    rw [settleAll_cons_value, settleAll_cons_state, hsettle, hvalue]
    exact ⟨rfl, hstate.trans hsame⟩

/-! ## Two polls of the same jobs -/

variable {table other : JobTable} {host host' : σ}

/-- Reaping the same jobs where the children are the same. -/
theorem reap_alike (hjobs : table.jobs.map Job.ticket = other.jobs.map Job.ticket)
    (hpos : ∀ pid ∈ table.jobs.map (·.pid), 0 < pid.number)
    (h : (kernel host).Alike (kernel host')) :
    reported (table.reap host).value.1 = reported (other.reap host').value.1 ∧
      (table.reap host).value.2.jobs.map Job.ticket =
        (other.reap host').value.2.jobs.map Job.ticket ∧
      (kernel (table.reap host).state).Alike (kernel (other.reap host').state) := by
  obtain ⟨hanswers, halike⟩ := answers_alike (pids_eq_of_tickets hjobs) hpos h
  refine ⟨?_, ?_, halike⟩
  · rw [reported_eq, reported_eq, finished_reap, finished_reap, hanswers]
    exact finishedOf_tickets hjobs _
  · rw [jobs_reap, jobs_reap, hanswers]
    exact keptOf_tickets hjobs _

/-- A reaping that is left out because no news was told would have changed nothing. -/
theorem reap_of_runs (hpos : ∀ pid ∈ table.jobs.map (·.pid), 0 < pid.number)
    (hruns : ∀ pid ∈ table.jobs.map (·.pid), (kernel host).Runs pid) :
    (table.reap host).value = ([], table) ∧ kernel (table.reap host).state = kernel host := by
  obtain ⟨hvalue, hstate⟩ := settleAll_of_runs hpos hruns
  refine ⟨?_, hstate⟩
  show ((settleAll table.jobs host).value.1,
    { table with jobs := (settleAll table.jobs host).value.2 }) = ([], table)
  rw [hvalue]

omit [StillHost σ] in
theorem sublist_poll (table : JobTable) (host : σ) :
    (table.poll host).value.2.jobs.Sublist table.jobs := by
  obtain ⟨host', -, ⟨hvalue, -⟩ | ⟨hvalue, -⟩⟩ := poll_cases table host
  · rw [hvalue]
  · have hkept := keptOf_sublist (table.jobs.zip (answers table.jobs host'))
    rw [map_fst_asked, ← jobs_reap] at hkept
    rw [hvalue]
    exact hkept

/-- A table with jobs that waits for news takes the news and is reaped if there were any. -/
theorem poll_told (hjobs : table.jobs ≠ []) (hdriven : table.signalDriven = true) (host : σ) :
    let after := (Host.takeChildNews host).state
    kernel after = (kernel host).takeNews ∧
      (table.poll host).value =
        (if (kernel host).news then (table.reap after).value else ([], table)) ∧
      (table.poll host).state = if (kernel host).news then (table.reap after).state else after := by
  intro after
  obtain ⟨htold, htaken⟩ := (StillHost.tells host).eq
  rw [poll_driven hjobs hdriven, Act.bind_value, Act.bind_state, Act.ask_value, Act.ask_state,
    htold]
  cases (kernel host).news <;> exact ⟨htaken, rfl, rfl⟩

/-- A table that waits for news and one that does not are polled: both return the same and keep the
same jobs. -/
theorem poll_alike {polled : Kernel} (hplain : other.signalDriven = false)
    (hjobs : table.jobs.map Job.ticket = other.jobs.map Job.ticket)
    (hpos : ∀ pid ∈ table.jobs.map (·.pid), 0 < pid.number)
    (h : (kernel host).Alike (kernel host'))
    (hwarned : table.signalDriven = true → (kernel host).Warned (table.jobs.map (·.pid)) polled) :
    reported (table.poll host).value.1 = reported (other.poll host').value.1 ∧
      (table.poll host).value.2.jobs.map Job.ticket =
        (other.poll host').value.2.jobs.map Job.ticket ∧
      (kernel (table.poll host).state).Alike (kernel (other.poll host').state) := by
  by_cases hempty : table.jobs = []
  · have hempty' : other.jobs = [] := by
      rw [hempty] at hjobs
      exact List.map_eq_nil_iff.mp hjobs.symm
    rw [poll_nil hempty, poll_nil hempty']
    exact ⟨rfl, hjobs, h⟩
  · have hother : other.jobs ≠ [] := by
      intro hempty'
      rw [hempty'] at hjobs
      exact hempty (List.map_eq_nil_iff.mp hjobs)
    rw [poll_plain hother hplain]
    cases hdriven : table.signalDriven with
    | false =>
      rw [poll_plain hempty hdriven]
      exact reap_alike hjobs hpos h
    | true =>
      obtain ⟨htaken, hvalue, hstate⟩ := poll_told hempty hdriven host
      have hafter : (kernel (Host.takeChildNews host).state).Alike (kernel host') := by
        rw [htaken]
        exact ⟨h.born, h.children, h.ending⟩
      rw [hvalue, hstate]
      cases hnews : (kernel host).news with
      | true => exact reap_alike hjobs hpos hafter
      | false =>
        have hruns := ((hwarned hdriven).calm hnews).tracked
        have hpids := pids_eq_of_tickets hjobs
        rw [hpids] at hpos hruns
        obtain ⟨hnone, hsame⟩ := reap_of_runs hpos fun pid hpid => h.runs.mp (hruns pid hpid)
        rw [hnone, hsame]
        exact ⟨rfl, hjobs, hafter⟩

/-- After a poll the children of all that is tracked run, or the mark is set. -/
theorem warned_poll {polled : Kernel} (hdriven : table.signalDriven = true)
    (hpos : ∀ pid ∈ table.jobs.map (·.pid), 0 < pid.number)
    (h : (kernel host).Warned (table.jobs.map (·.pid)) polled) :
    (kernel (table.poll host).state).Warned ((table.poll host).value.2.jobs.map (·.pid))
      (kernel (table.poll host).state) := by
  by_cases hempty : table.jobs = []
  · rw [poll_nil hempty]
    refine ⟨h.watched, Or.inr (Kernel.calm_of_runs fun pid hpid => ?_)⟩
    replace hpid : pid ∈ table.jobs.map (·.pid) := hpid
    rw [hempty] at hpid
    cases hpid
  · obtain ⟨htaken, hvalue, hstate⟩ := poll_told hempty hdriven host
    have hwatched : (kernel (Host.takeChildNews host).state).watched = true := by
      rw [htaken]
      exact h.watched
    rw [hvalue, hstate]
    cases hnews : (kernel host).news with
    | true =>
      have hstays := settleAll_leaves (p := fun k => k.watched = true)
        (fun hlook hbefore => hlook.later.watched.trans hbefore) hpos hwatched
      exact ⟨hstays, Or.inr (Kernel.calm_of_runs (runs_of_kept hpos))⟩
    | false =>
      refine ⟨hwatched, Or.inr (Kernel.calm_of_runs fun pid hpid => ?_)⟩
      have hruns := (h.calm hnews).tracked pid hpid
      show (kernel (Host.takeChildNews host).state).Runs pid
      rw [htaken]
      exact hruns

end JobTable

/-! ## Histories -/

/-- A table with what its polls have returned. -/
structure Polling (σ : Type) where
  table : JobTable
  host : σ
  /-- The children at the last poll, or when the table was made. -/
  polled : Kernel
  returned : List (List (Ticket × Status))

namespace Polling

inductive Move
  | event (event : Kernel.Event)
  | track (pid : Pid) (command : String)
  | poll

variable {σ : Type} [Host σ] [StillHost σ]

def step (p : Polling σ) : Move → Polling σ
  | .event event => { p with host := StillHost.undergo event p.host }
  | .track pid command =>
    let tracked := p.table.track pid command p.host
    { p with table := tracked.value.2, host := tracked.state }
  | .poll =>
    let polled := p.table.poll p.host
    { table := polled.value.2
      host := polled.state
      polled := kernel polled.state
      returned := p.returned ++ [JobTable.reported polled.value.1] }

def run (p : Polling σ) (history : List Move) : Polling σ := history.foldl step p

/-- What is tracked is a child of the shell that has not been collected, and that had not ended when
the table was polled the last time; it may not have been started then. -/
def Allows (p : Polling σ) : Move → Prop
  | .track pid _ => 0 < pid.number ∧
      ∃ child, (kernel p.host).children pid = some child ∧ p.polled.ending child = none
  | _ => True

def AllowsAll (p : Polling σ) : List Move → Prop
  | [] => True
  | move :: later => p.Allows move ∧ (p.step move).AllowsAll later

/-- A new table that does not wait for news. -/
def plain (host : σ) : Polling σ := ⟨{}, host, kernel host, []⟩

/-- A new table that has asked for news. -/
def driven (host : σ) : Polling σ :=
  let watched := ({} : JobTable).watch host
  ⟨watched.value.2, watched.state, kernel watched.state, []⟩

/-- A child that was started since the last poll had not ended then. -/
theorem allows_track {p : Polling σ} {pid : Pid} {child : Nat} (hpos : 0 < pid.number)
    (hchild : (kernel p.host).children pid = some child) (hnew : p.polled.born.length ≤ child)
    (command : String) : p.Allows (.track pid command) := by
  refine ⟨hpos, child, hchild, ?_⟩
  cases hended : p.polled.ending child with
  | none => rfl
  | some e => exact absurd (p.polled.ending_lt hended) (Nat.not_lt.mpr hnew)

/-- A table that may wait for news beside one that does not. -/
structure Matched (p q : Polling σ) : Prop where
  plain : q.table.signalDriven = false
  jobs : p.table.jobs.map Job.ticket = q.table.jobs.map Job.ticket
  nextId : p.table.nextId = q.table.nextId
  returned : p.returned = q.returned
  positive : ∀ pid ∈ p.table.jobs.map (·.pid), 0 < pid.number
  children : (kernel p.host).Alike (kernel q.host)
  polled : p.polled.ending = q.polled.ending
  warned : p.table.signalDriven = true →
    (kernel p.host).Warned (p.table.jobs.map (·.pid)) p.polled

theorem matched_start (host : σ) : Matched (driven host) (plain host) := by
  have hwatches := StillHost.watches host
  have htable : (({} : JobTable).watch host).value.2.jobs = [] ∧
      (({} : JobTable).watch host).value.2.nextId = 1 ∧
      ((({} : JobTable).watch host).value.2.signalDriven = true →
        (Host.watchChildren host).value = .ok ()) := by
    rw [JobTable.watch_value]
    cases (Host.watchChildren host).value with
    | ok _ => exact ⟨rfl, rfl, fun _ => rfl⟩
    | error text => exact ⟨rfl, rfl, fun h => by cases h⟩
  obtain ⟨hjobs, hnext, hdriven⟩ := htable
  have hstate := JobTable.watch_state ({} : JobTable) host
  have hpids : ∀ pid, pid ∉ (driven host).table.jobs.map (·.pid) := by
    show ∀ pid, pid ∉ (({} : JobTable).watch host).value.2.jobs.map (·.pid)
    rw [hjobs]
    exact fun pid => List.not_mem_nil
  refine ⟨rfl, ?_, hnext, rfl, fun pid hpid => absurd hpid (hpids pid), ?_, ?_, fun h => ?_⟩
  · show (({} : JobTable).watch host).value.2.jobs.map Job.ticket = []
    rw [hjobs]
    rfl
  · show (kernel (({} : JobTable).watch host).state).Alike (kernel host)
    rw [hstate]
    exact hwatches.alike
  · show (kernel (({} : JobTable).watch host).state).ending = (kernel host).ending
    rw [hstate]
    exact hwatches.alike.ending
  · refine ⟨?_, Or.inr (Kernel.calm_of_runs fun pid hpid => absurd hpid (hpids pid))⟩
    show (kernel (({} : JobTable).watch host).state).watched = true
    rw [hstate]
    exact hwatches.watched (hdriven h)

variable {p q : Polling σ}

/-- A move that the one allows the other allows. -/
theorem Matched.allows (h : Matched p q) {move : Move} (hmove : q.Allows move) :
    p.Allows move := by
  cases move with
  | track pid command =>
    obtain ⟨hpos, child, hchild, hpolled⟩ := hmove
    exact ⟨hpos, child, h.children.children ▸ hchild, h.polled ▸ hpolled⟩
  | event => trivial
  | poll => trivial

theorem Matched.event (h : Matched p q) (event : Kernel.Event) :
    Matched (p.step (.event event)) (q.step (.event event)) where
  plain := h.plain
  jobs := h.jobs
  nextId := h.nextId
  returned := h.returned
  positive := h.positive
  children := by
    show (kernel (StillHost.undergo event p.host)).Alike (kernel (StillHost.undergo event q.host))
    rw [StillHost.kernel_undergo, StillHost.kernel_undergo]
    exact h.children.undergo event
  polled := h.polled
  warned hdriven := by
    show (kernel (StillHost.undergo event p.host)).Warned _ _
    rw [StillHost.kernel_undergo]
    exact (h.warned hdriven).undergo event

theorem pids_track (p : Polling σ) (pid : Pid) (command : String) :
    (p.step (.track pid command)).table.jobs.map (·.pid) = p.table.jobs.map (·.pid) ++ [pid] :=
  List.map_append

theorem Matched.track (h : Matched p q) {pid : Pid} {command : String}
    (hallowed : p.Allows (.track pid command)) :
    Matched (p.step (.track pid command)) (q.step (.track pid command)) := by
  obtain ⟨hpos, child, hchild, hpolled⟩ := hallowed
  refine ⟨h.plain, ?_, ?_, h.returned, ?_, h.children, h.polled, fun hdriven => ?_⟩
  · have hentered : ∀ r : Polling σ, (r.step (.track pid command)).table.jobs.map Job.ticket =
        r.table.jobs.map Job.ticket ++ [⟨r.table.nextId, pid, command⟩] :=
      fun r => List.map_append
    rw [hentered, hentered, h.jobs, h.nextId]
  · exact congrArg (· + 1) h.nextId
  · rw [pids_track]
    intro other hother
    rcases List.mem_append.mp hother with hother | hother
    · exact h.positive other hother
    · rw [List.mem_singleton.mp hother]
      exact hpos
  · rw [pids_track]
    exact (h.warned hdriven).track hchild hpolled

theorem Matched.poll (h : Matched p q) : Matched (p.step .poll) (q.step .poll) := by
  obtain ⟨hreported, hjobs, hchildren⟩ :=
    JobTable.poll_alike h.plain h.jobs h.positive h.children h.warned
  have hsame : ∀ r : Polling σ, (r.step .poll).table = { r.table with
      jobs := (r.step .poll).table.jobs } := fun r => JobTable.poll_table r.table r.host
  have hkept : ((p.step .poll).table.jobs.map (·.pid)).Sublist (p.table.jobs.map (·.pid)) :=
    (JobTable.sublist_poll p.table p.host).map _
  refine ⟨?_, hjobs, ?_, ?_, ?_, hchildren, hchildren.ending, fun hdriven => ?_⟩
  · rw [hsame]
    exact h.plain
  · rw [hsame p, hsame q]
    exact h.nextId
  · show p.returned ++ [_] = q.returned ++ [_]
    rw [h.returned, hreported]
  · exact fun pid hpid => h.positive pid (hkept.subset hpid)
  · rw [hsame] at hdriven
    exact JobTable.warned_poll hdriven h.positive (h.warned hdriven)

theorem Matched.step (h : Matched p q) {move : Move} (hmove : q.Allows move) :
    Matched (p.step move) (q.step move) := by
  cases move with
  | event event => exact h.event event
  | track pid command => exact h.track (h.allows hmove)
  | poll => exact h.poll

theorem Matched.run (h : Matched p q) {history : List Move} (hhistory : q.AllowsAll history) :
    p.AllowsAll history ∧ Matched (p.run history) (q.run history) := by
  induction history generalizing p q with
  | nil => exact ⟨trivial, h⟩
  | cons move later ih =>
    obtain ⟨hallowed, hrun⟩ := ih (h.step hhistory.1) hhistory.2
    exact ⟨⟨h.allows hhistory.1, hallowed⟩, hrun⟩

/-- **The fast path agrees with the plain scan.**  Of two new tables one has asked for news, the
other has not.  After any history in which only children are tracked that have not been collected,
and that had not ended at the last poll, the polls of both have returned the same jobs with the same
statuses in the same order, and both hold the same jobs. -/
theorem driven_polls_as_plain (host : σ) {history : List Move}
    (h : (plain host).AllowsAll history) :
    (driven host).AllowsAll history ∧
      ((driven host).run history).returned = ((plain host).run history).returned ∧
      ((driven host).run history).table.jobs.map Job.ticket =
        ((plain host).run history).table.jobs.map Job.ticket := by
  obtain ⟨hallowed, hmatched⟩ := (matched_start host).run h
  exact ⟨hallowed, hmatched.returned, hmatched.jobs⟩

end Polling

namespace Simulation

instance : StillHost Simulation where
  undergo event sim := { sim with kernel := sim.kernel.undergo event }
  kernel_undergo _ _ := rfl
  looks _ sim := sim.looks _
  tells sim := Kernel.Tells.told sim.kernel
  watches sim := Kernel.Watches.watching sim.kernel

end Simulation

namespace Polling

open Simulation (single)

/-- A child is tracked and polled for, another is waited for in the foreground, and then the first
ends. -/
def background : List Move :=
  [.event (.started ⟨"sleep", ["1"], by decide⟩ ⟨7⟩), .track ⟨7⟩ "sleep 1 ", .poll,
    .event (.started ⟨"true", [], by decide⟩ ⟨9⟩), .event (.ended ⟨9⟩ (.exited 0)),
    .event (.collected ⟨9⟩), .poll, .event (.ended ⟨7⟩ (.exited 3)), .poll]

theorem driven_polls_as_plain_background :
    (plain single).AllowsAll background ∧
      ((driven single).run background).returned =
        [[], [], [(⟨1, ⟨7⟩, "sleep 1 "⟩, .exited 3)]] ∧
      ((plain single).run background).returned =
        [[], [], [(⟨1, ⟨7⟩, "sleep 1 "⟩, .exited 3)]] := by
  have hallowed : (plain single).AllowsAll background :=
    ⟨trivial, allows_track (by decide) rfl (Nat.zero_le 0) _, trivial, trivial, trivial, trivial,
      trivial, trivial, trivial, trivial⟩
  have hreturned : ((driven single).run background).returned =
      [[], [], [(⟨1, ⟨7⟩, "sleep 1 "⟩, .exited 3)]] := by rfl
  exact ⟨hallowed, hreturned, (driven_polls_as_plain single hallowed).2.1.symm.trans hreturned⟩

end Polling

end JobShell
