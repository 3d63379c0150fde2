import JobShell.Duration
import JobShell.Status
import JobShell.Text.Align
import JobShell.Text.Blank

/-!
Background jobs and the notices about their ends.
-/

namespace JobShell

/-- A child that was launched in the background. -/
structure Job where
  id : Nat
  pid : Pid
  command : String
  /-- When it was launched, in nanoseconds since 1970. -/
  started : Nat
  deriving DecidableEq, Repr, Inhabited

/-- A job whose child has ended. -/
structure FinishedJob where
  job : Job
  status : Status
  elapsed : Duration
  deriving DecidableEq, Repr, Inhabited

/-- The job's number, how it ended, its command and how long it took. -/
def FinishedJob.notice (finished : FinishedJob) : String :=
  let command := String.ofList (Text.trim finished.job.command.toList)
  let summary := Text.leftAligned 10 finished.status.summary
  s!"[{finished.job.id}] {summary} {command} ({finished.elapsed.text}s)"

end JobShell
