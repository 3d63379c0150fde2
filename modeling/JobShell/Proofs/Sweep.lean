import JobShell.Proofs.Effects
import JobShell.Proofs.Scan

/-!
# A reaping goes through the table in place

A reaping may be done with a position in the table and without a second list of those that are kept:
a job that has finished or is dropped is removed where it stands, so that the one behind it comes to
the same position, and the position moves on past any other (`JobTable.sweepFrom`).  No neighbour of
a removed job is left out or asked about twice, as this is what a reaping does
(`JobTable.sweep_eq_reap`).
-/

namespace JobShell

namespace JobTable

/-- The table without the job at a position. -/
def removeAt (table : JobTable) (index : Nat) : JobTable :=
  { table with jobs := table.jobs.eraseIdx index }

theorem length_removeAt {table : JobTable} {index : Nat} (h : index < table.jobs.length) :
    (table.removeAt index).jobs.length = table.jobs.length - 1 :=
  List.length_eraseIdx_of_lt h

variable {σ : Type} [Host σ]

/-- Goes through the table from a position on, with what has finished before it. -/
def sweepFrom (index : Nat) (table : JobTable) (finished : List FinishedJob) :
    Act σ (List FinishedJob × JobTable) :=
  match _hat : table.jobs[index]? with
  | none => pure (finished, table)
  | some job => do
    match ← Act.ask (Host.look job.pid) with
    | .exited code => do
      let met ← meet job (.finished (.exited code))
      sweepFrom index (table.removeAt index) (finished ++ met.1)
    | .signaled signal => do
      let met ← meet job (.finished (.signaled signal))
      sweepFrom index (table.removeAt index) (finished ++ met.1)
    | .alive => sweepFrom (index + 1) table finished
    | .changed event => do
      remark job.pid (.changed event)
      sweepFrom (index + 1) table finished
    | .failed errno =>
      if errno = Errno.interrupted then sweepFrom (index + 1) table finished
      else do
        let _ ← meet job (.dropped errno)
        sweepFrom index (table.removeAt index) finished
termination_by table.jobs.length - index
decreasing_by
  all_goals
    have hlt := (List.getElem?_eq_some_iff.mp _hat).1
    have hremoved := length_removeAt hlt
    omega

/-- Goes through the table from its beginning. -/
def sweep (table : JobTable) : Act σ (List FinishedJob × JobTable) := sweepFrom 0 table []

theorem sweepFrom_end {table : JobTable} {index : Nat} (h : table.jobs[index]? = none)
    (finished : List FinishedJob) :
    (sweepFrom index table finished : Act σ _) = pure (finished, table) := by
  unfold sweepFrom
  split
  · rfl
  · rename_i job hat
    rw [h] at hat
    cases hat

/-- At a job the sweep does what the answer demands, and goes on behind the job if that is kept, or
else where the job stood. -/
theorem sweepFrom_job {table : JobTable} {index : Nat} {job : Job}
    (h : table.jobs[index]? = some job) (finished : List FinishedJob) :
    (sweepFrom index table finished : Act σ _) = (do
      let settled ← settle job
      if settled.2.isEmpty then sweepFrom index (table.removeAt index) (finished ++ settled.1)
      else sweepFrom (index + 1) table finished) := by
  rw [sweepFrom]
  split
  · rename_i hat
    rw [h] at hat
    cases hat
  · rename_i other hat
    obtain rfl : job = other := Option.some.inj (h.symm.trans hat)
    simp only [settle, bind_assoc]
    refine bind_congr fun answer => ?_
    cases answer with
    | exited code => rfl
    | signaled signal => rfl
    | alive => rfl
    | changed event => rfl
    | failed errno =>
      by_cases hinterrupted : errno = Errno.interrupted
      · simp only [hinterrupted, if_true, fate]
        rfl
      · simp only [hinterrupted, if_false, fate, meet, remark, bind_assoc, pure_bind,
          List.isEmpty_nil, if_true, List.append_nil]

theorem jobs_removeAt {table : JobTable} {front rest : List Job} {job : Job}
    (h : table.jobs = front ++ job :: rest) :
    (table.removeAt front.length).jobs = front ++ rest := by
  unfold removeAt
  rw [h, List.eraseIdx_append_of_length_le (Nat.le_refl _), Nat.sub_self]
  rfl

/-- From behind some jobs that are kept, the sweep goes through the rest as a reaping does. -/
theorem sweepFrom_eq {table : JobTable} {front rest : List Job} (h : table.jobs = front ++ rest)
    (finished : List FinishedJob) :
    (sweepFrom front.length table finished : Act σ _) = (do
      let settled ← settleAll rest
      pure (finished ++ settled.1, { table with jobs := front ++ settled.2 })) := by
  induction rest generalizing front table finished with
  | nil =>
    have hat : table.jobs[front.length]? = none := by
      rw [h, List.append_nil, List.getElem?_eq_none (Nat.le_refl _)]
    rw [sweepFrom_end hat]
    simp only [settleAll, pure_bind, List.append_nil]
    rw [← (show table.jobs = front by rw [h, List.append_nil])]
  | cons job rest ih =>
    have hat : table.jobs[front.length]? = some job := by
      rw [h, List.getElem?_append_right (Nat.le_refl _), Nat.sub_self]
      rfl
    have hremoved := jobs_removeAt h
    rw [sweepFrom_job hat]
    simp only [settleAll, settle, bind_assoc]
    refine bind_congr fun answer => bind_congr fun _ => ?_
    cases fate answer with
    | kept =>
      have hfront : table.jobs = front ++ [job] ++ rest := by rw [h, List.append_cons]
      have hlater := ih hfront finished
      rw [List.length_append, List.length_singleton] at hlater
      simp only [meet, pure_bind, List.isEmpty_cons, Bool.false_eq_true, if_false, hlater,
        List.append_assoc, List.nil_append]
    | finished status =>
      simp only [meet, bind_assoc, pure_bind, List.isEmpty_nil, if_true, ih hremoved,
        List.append_assoc, List.nil_append]
      rfl
    | dropped errno =>
      simp only [meet, bind_assoc, pure_bind, List.isEmpty_nil, if_true, ih hremoved,
        List.append_nil, List.nil_append]
      rfl

/-- A sweep in place is a reaping. -/
theorem sweep_eq_reap (table : JobTable) : (table.sweep : Act σ _) = table.reap := by
  have hfront : table.jobs = [] ++ table.jobs := rfl
  have hswept := sweepFrom_eq (σ := σ) hfront []
  simp only [List.nil_append] at hswept
  exact hswept

end JobTable

end JobShell
