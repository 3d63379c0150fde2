import JobShell.Journal

/-!
The background jobs whose ends have not been collected.

`reap` asks once about each job, in order of number: a child that has ended is finished, one about
which nothing can be learnt is dropped, and any other is kept.  `poll` reaps only when there is
something to learn.
-/

namespace JobShell

structure JobTable where
  /-- In order of their numbers. -/
  jobs : List Job := []
  nextId : Nat := 1
  /-- `poll` reaps only after news of a child. -/
  signalDriven : Bool := false
  deriving Inhabited

namespace JobTable

variable {σ : Type} [Host σ]

/-- From now on `poll` relies on being told of changes. -/
def watch (table : JobTable) : Act σ (Except ProcessError Unit × JobTable) := do
  match ← Act.ask Host.watchChildren with
  | .error text => pure (.error (.signalError text), table)
  | .ok () => pure (.ok (), { table with signalDriven := true })

/-- Enters a child under the next number. -/
def track (pid : Pid) (command : String) (table : JobTable) : Act σ (Nat × JobTable) := do
  let id := table.nextId
  Act.debug .jobs s!"tracking background job [{id}] pid {pid.number}: {command}"
  let started ← Act.view Host.now
  pure (id, { table with jobs := table.jobs ++ [⟨id, pid, command, started⟩], nextId := id + 1 })

/-- What becomes of a job in a reaping. -/
inductive Fate
  | finished (status : Status)
  | kept
  | dropped (errno : Errno)
  deriving DecidableEq, Repr

/-- The fate of a job by what is known of its child. -/
def fate : WaitAnswer → Fate
  | .exited code => .finished (.exited code)
  | .signaled signal => .finished (.signaled signal)
  | .alive => .kept
  | .changed _ => .kept
  | .failed errno => if errno = Errno.interrupted then .kept else .dropped errno

/-- Remarks on an answer that changes nothing. -/
def remark (pid : Pid) : WaitAnswer → Act σ Unit
  | .changed event => Act.debug .jobs s!"ignoring wait event {event} for pid {pid.number}"
  | _ => pure ()

/-- Carries out the fate of a job; gives it among the finished, among the kept, or not at all. -/
def meet (job : Job) : Fate → Act σ (List FinishedJob × List Job)
  | .finished status => do
    Act.debug .jobs
      s!"reaped background job [{job.id}] pid {job.pid.number}: {status.structural}"
    let now ← Act.view Host.now
    pure ([⟨job, status, ⟨now - job.started⟩⟩], [])
  | .kept => pure ([], [job])
  | .dropped errno => do
    Act.warn .jobs s!"dropping background job pid {job.pid.number}: {errno.label}"
    pure ([], [])

/-- Asks about one job and does what the answer demands. -/
def settle (job : Job) : Act σ (List FinishedJob × List Job) := do
  let answer ← Act.ask (Host.look job.pid)
  remark job.pid answer
  meet job (fate answer)

/-- Asks about each job in turn; gives those that have finished and those that are kept. -/
def settleAll : List Job → Act σ (List FinishedJob × List Job)
  | [] => pure ([], [])
  | job :: rest => do
    let first ← settle job
    let later ← settleAll rest
    pure (first.1 ++ later.1, first.2 ++ later.2)

def reap (table : JobTable) : Act σ (List FinishedJob × JobTable) := do
  let settled ← settleAll table.jobs
  pure (settled.1, { table with jobs := settled.2 })

def poll (table : JobTable) : Act σ (List FinishedJob × JobTable) :=
  if table.jobs.isEmpty then pure ([], table)
  else if table.signalDriven then do
    let news ← Act.ask Host.takeChildNews
    if news then reap table else pure ([], table)
  else reap table

end JobTable

end JobShell
