import JobShell.Proofs.Children
import JobShell.Proofs.Scan

/-!
# Reaping children of one's own

On a host that treats children as the system does, a scan of own children collects exactly those
whose ends it tells (`scanned_reap`) and is never told that there is no such child
(`answers_ne_noChild`).  A poll is a scan or leaves everything as it is (`collected_poll`).
-/

namespace JobShell

open ProcessHost (kernel)

theorem Ending.status?_answer (e : Ending) (status : Status) :
    e.answer.status? = some status ↔ e.result = .ok status := by
  cases e <;> simp [answer, result, WaitAnswer.status?]

theorem Ending.answer_ne_noChild (e : Ending) : e.answer ≠ .failed Errno.noChild := by
  cases e <;> simp [answer, Errno.noChild, Errno.invalid]

theorem Ending.fate_answer_ne_kept (e : Ending) : JobTable.fate e.answer ≠ .kept := by
  cases e <;> simp [answer, JobTable.fate, Errno.invalid, Errno.interrupted]

namespace JobTable

/-! ## A scan of own children -/

/-- What a scan of own children has come to. -/
structure Scanned (jobs : List Job) (k : Kernel) (settled : List FinishedJob × List Job)
    (k' : Kernel) : Prop where
  later : Kernel.Later (jobs.map (·.pid)) k k'
  born : k'.born = k.born
  sublist : settled.2.Sublist jobs
  kept : ∀ job ∈ settled.2, ∃ child, k.children job.pid = some child ∧
    k.ending child = none ∧ k'.children job.pid = some child
  gone : ∀ job ∈ jobs, job ∉ settled.2 → k'.children job.pid = none
  finished : ∀ f ∈ settled.1, f.job ∈ jobs ∧ ∃ child e,
    k.children f.job.pid = some child ∧ k'.ending child = some e ∧ e.result = .ok f.status

theorem Scanned.nil (k : Kernel) : Scanned [] k ([], []) k where
  later := Kernel.Later.refl k
  born := rfl
  sublist := List.Sublist.refl _
  kept job hjob := by cases hjob
  gone job hjob := by cases hjob
  finished f hf := by cases hf

/-- Two scans of different children, one after the other. -/
theorem Scanned.append {jobs later : List Job} {k k' k'' : Kernel}
    {first second : List FinishedJob × List Job} (h : Scanned jobs k first k')
    (h' : Scanned later k' second k'')
    (hapart : ∀ job ∈ jobs, ∀ other ∈ later, job.pid ≠ other.pid) :
    Scanned (jobs ++ later) k (first.1 ++ second.1, first.2 ++ second.2) k'' := by
  have hjobs : ∀ job ∈ jobs, job.pid ∉ later.map (·.pid) := by
    intro job hjob hmem
    obtain ⟨other, hother, hpid⟩ := List.mem_map.mp hmem
    exact hapart job hjob other hother hpid.symm
  have hlater : ∀ job ∈ later, job.pid ∉ jobs.map (·.pid) := by
    intro job hjob hmem
    obtain ⟨other, hother, hpid⟩ := List.mem_map.mp hmem
    exact hapart other hother job hjob hpid
  refine ⟨?_, h'.born.trans h.born, h.sublist.append h'.sublist, ?_, ?_, ?_⟩
  · rw [List.map_append]
    exact (h.later.mono fun _ => List.mem_append_left _).trans
      (h'.later.mono fun _ => List.mem_append_right _)
  · intro job hjob
    rcases List.mem_append.mp hjob with hjob | hjob
    · obtain ⟨child, hchild, hruns, hstays⟩ := h.kept job hjob
      refine ⟨child, hchild, hruns, ?_⟩
      rw [h'.later.spared _ (hjobs job (h.sublist.subset hjob)), hstays]
    · obtain ⟨child, hchild, hruns, hstays⟩ := h'.kept job hjob
      rw [h.later.spared _ (hlater job (h'.sublist.subset hjob))] at hchild
      refine ⟨child, hchild, ?_, hstays⟩
      cases hk : k.ending child with
      | none => rfl
      | some e => rw [h.later.ending hk] at hruns; cases hruns
  · intro job hjob hnot
    rw [List.mem_append, not_or] at hnot
    rcases List.mem_append.mp hjob with hjob | hjob
    · rw [h'.later.spared _ (hjobs job hjob)]
      exact h.gone job hjob hnot.1
    · exact h'.gone job hjob hnot.2
  · intro f hf
    rcases List.mem_append.mp hf with hf | hf
    · obtain ⟨hjob, child, e, hchild, hended, hresult⟩ := h.finished f hf
      exact ⟨List.mem_append_left _ hjob, child, e, hchild, h'.later.ending hended, hresult⟩
    · obtain ⟨hjob, child, e, hchild, hended, hresult⟩ := h'.finished f hf
      rw [h.later.spared _ (hlater _ hjob)] at hchild
      exact ⟨List.mem_append_right _ hjob, child, e, hchild, hended, hresult⟩

variable {σ : Type} [Host σ] [ProcessHost σ]

theorem scanned_settle {job : Job} {host : σ} (hpos : 0 < job.pid.number) {child : Nat}
    (hchild : (kernel host).children job.pid = some child) :
    Scanned [job] (kernel host) (settle job host).value (kernel (settle job host).state) := by
  have hlook := ProcessHost.look hpos host
  have hown := hlook.looks_own hchild
  rw [settle_state]
  refine ⟨hlook.later Kernel.Looks.later, hlook.born_looks, ?_, ?_, ?_, ?_⟩
  · rw [settle_kept]
    exact keptOf_sublist _
  · intro other hother
    obtain ⟨rfl, hfate⟩ := mem_settle_kept.mp hother
    rcases hown with ⟨-, hruns, hstays⟩ | ⟨e, hanswer, -, -⟩
    · exact ⟨child, hchild, hruns, hstays⟩
    · rw [hanswer] at hfate
      exact absurd hfate e.fate_answer_ne_kept
  · intro other hother hnot
    rw [List.mem_singleton.mp hother] at hnot ⊢
    rcases hown with ⟨hanswer, -, -⟩ | ⟨e, -, -, hgone⟩
    · exact absurd (mem_settle_kept.mpr ⟨rfl, by rw [hanswer]; rfl⟩) hnot
    · exact hgone
  · intro f hf
    obtain ⟨hjob, hstatus⟩ := mem_settle_finished hf
    rw [hjob]
    rcases hown with ⟨hanswer, -, -⟩ | ⟨e, hanswer, hended, -⟩
    · rw [hanswer] at hstatus
      cases hstatus
    · rw [hanswer, e.status?_answer] at hstatus
      exact ⟨List.mem_singleton_self job, child, e, hchild, hended, hstatus⟩

theorem scanned_settleAll {jobs : List Job} {host : σ}
    (h : (kernel host).Owns (jobs.map (·.pid))) :
    Scanned jobs (kernel host) (settleAll jobs host).value
      (kernel (settleAll jobs host).state) := by
  induction jobs generalizing host with
  | nil => exact Scanned.nil _
  | cons job rest ih =>
    obtain ⟨child, hchild⟩ := h.own job.pid List.mem_cons_self
    have hnew : job.pid ∉ rest.map (·.pid) := (List.nodup_cons.mp h.nodup).1
    have hfirst := scanned_settle (h.positive job.pid List.mem_cons_self) hchild
    have hscan := hfirst.append (ih (h.rest hfirst.later.toKeeps)) (by
      intro first hmem other hother hpid
      rw [List.mem_singleton.mp hmem] at hpid
      rw [hpid] at hnew
      exact hnew (List.mem_map_of_mem hother))
    rw [settleAll_cons_value, settleAll_cons_state, ← settle_state]
    exact hscan

/-- A scan of own children is never told that there is no such child. -/
theorem answers_ne_noChild {jobs : List Job} {host : σ}
    (h : (kernel host).Owns (jobs.map (·.pid))) :
    ∀ answer ∈ answers jobs host, answer ≠ .failed Errno.noChild := by
  induction jobs generalizing host with
  | nil => intro answer hmem; cases hmem
  | cons job rest ih =>
    intro answer hmem
    obtain ⟨child, hchild⟩ := h.own job.pid List.mem_cons_self
    have hlook := ProcessHost.look (h.positive job.pid List.mem_cons_self) host
    rcases List.mem_cons.mp hmem with rfl | hmem
    · rcases hlook.looks_own hchild with ⟨hanswer, -, -⟩ | ⟨e, hanswer, -, -⟩
      · rw [hanswer]; exact WaitAnswer.noConfusion
      · rw [hanswer]; exact e.answer_ne_noChild
    · exact ih (h.rest (hlook.later Kernel.Looks.later).toKeeps) answer hmem

/-! ## Reaping own children -/

theorem scanned_reap {table : JobTable} {host : σ}
    (h : (kernel host).Owns (table.jobs.map (·.pid))) :
    Scanned table.jobs (kernel host)
      ((table.reap host).value.1, (table.reap host).value.2.jobs)
      (kernel (table.reap host).state) :=
  scanned_settleAll h

/-- A child that had ended before a scan is not kept. -/
theorem Scanned.not_kept {jobs : List Job} {k k' : Kernel}
    {settled : List FinishedJob × List Job} (h : Scanned jobs k settled k') {job : Job}
    (hended : k.HasEnded job.pid) : job ∉ settled.2 := by
  intro hjob
  obtain ⟨child, hchild, hruns, -⟩ := h.kept job hjob
  obtain ⟨child', e, hchild', hend⟩ := hended
  rw [hchild, Option.some.injEq] at hchild'
  rw [← hchild', hruns] at hend
  cases hend

/-- A child that is kept ran when it was looked at, so its end has left its mark. -/
theorem Scanned.alert {jobs : List Job} {k k' : Kernel} {settled : List FinishedJob × List Job}
    (h : Scanned jobs k settled k') (hwatched : k.watched = true) :
    k'.Alert (settled.2.map (·.pid)) := by
  intro pid hpid hended
  obtain ⟨job, hjob, rfl⟩ := List.mem_map.mp hpid
  obtain ⟨child, hchild, -, hstays⟩ := h.kept job hjob
  exact h.later.news_of_hasEnded hwatched (hstays.trans hchild.symm)
    (fun hbefore => absurd hjob (h.not_kept hbefore)) hended

/-! ## Polling own children -/

/-- What a scan of own children has come to, whether or not it was made. -/
structure Collected (jobs : List Job) (k : Kernel) (settled : List FinishedJob × List Job)
    (k' : Kernel) : Prop where
  keeps : Kernel.Keeps (jobs.map (·.pid)) k k'
  born : k'.born = k.born
  sublist : settled.2.Sublist jobs
  stays : ∀ job ∈ settled.2, k'.children job.pid = k.children job.pid
  gone : ∀ job ∈ jobs, job ∉ settled.2 → k'.children job.pid = none
  finished : ∀ f ∈ settled.1, f.job ∈ jobs ∧ ∃ child e,
    k.children f.job.pid = some child ∧ k'.ending child = some e ∧ e.result = .ok f.status

theorem Scanned.collected {jobs : List Job} {k k' : Kernel}
    {settled : List FinishedJob × List Job} (h : Scanned jobs k settled k') :
    Collected jobs k settled k' where
  keeps := h.later.toKeeps
  born := h.born
  sublist := h.sublist
  stays job hjob := by
    obtain ⟨child, hchild, -, hstays⟩ := h.kept job hjob
    rw [hstays, hchild]
  gone := h.gone
  finished := h.finished

namespace Collected

variable {jobs : List Job} {k k' : Kernel} {settled : List FinishedJob × List Job}

theorem idle (hkeeps : Kernel.Keeps [] k k') (hborn : k'.born = k.born) :
    Collected jobs k ([], jobs) k' where
  keeps := hkeeps.mono (by simp)
  born := hborn
  sublist := List.Sublist.refl _
  stays job _ := hkeeps.spared job.pid List.not_mem_nil
  gone job hjob hnot := absurd hjob hnot
  finished f hf := by cases hf

theorem after {before : Kernel} (hkeeps : Kernel.Keeps [] before k) (hborn : k.born = before.born)
    (h : Collected jobs k settled k') : Collected jobs before settled k' where
  keeps := (hkeeps.mono (by simp)).trans h.keeps
  born := h.born.trans hborn
  sublist := h.sublist
  stays job hjob := (h.stays job hjob).trans (hkeeps.spared job.pid List.not_mem_nil)
  gone := h.gone
  finished f hf := by
    rw [← hkeeps.spared f.job.pid List.not_mem_nil]
    exact h.finished f hf

/-- The children of the jobs that are kept are own children still. -/
theorem owns (h : Collected jobs k settled k') (hown : k.Owns (jobs.map (·.pid))) :
    k'.Owns (settled.2.map (·.pid)) where
  positive pid hpid := hown.positive pid ((h.sublist.map _).subset hpid)
  own pid hpid := by
    obtain ⟨job, hjob, rfl⟩ := List.mem_map.mp hpid
    rw [h.stays job hjob]
    exact hown.own job.pid (List.mem_map_of_mem (h.sublist.subset hjob))
  nodup := hown.nodup.sublist (h.sublist.map _)

end Collected

theorem collected_poll {table : JobTable} {host : σ}
    (h : (kernel host).Owns (table.jobs.map (·.pid))) :
    Collected table.jobs (kernel host) ((table.poll host).value.1, (table.poll host).value.2.jobs)
      (kernel (table.poll host).state) := by
  obtain ⟨host', hhost, hpoll⟩ := poll_cases table host
  obtain ⟨hkeeps, hborn⟩ : Kernel.Keeps [] (kernel host) (kernel host') ∧
      (kernel host').born = (kernel host).born := by
    rcases hhost with rfl | rfl
    · exact ⟨(Kernel.Later.refl _).toKeeps, rfl⟩
    · have htold := ProcessHost.takeChildNews host
      exact ⟨htold.keeps_tells, htold.born_tells⟩
  rcases hpoll with ⟨hvalue, hstate⟩ | ⟨hvalue, hstate⟩
  · rw [hvalue, hstate]
    exact Collected.idle hkeeps hborn
  · rw [hvalue, hstate]
    exact (scanned_reap (h.keeps hkeeps fun _ _ => List.not_mem_nil)).collected.after hkeeps hborn

end JobTable

end JobShell
