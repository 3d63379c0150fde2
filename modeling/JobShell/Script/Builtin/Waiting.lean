import JobShell.Script.Builtin.Reply
import JobShell.Script.Trap

/-!
The jobs of the shell: listing them, and waiting for them.
-/

namespace JobShell.Script.Waiting

open Machine Toolbox

/-- How wide the part of a line is in which a job is described. -/
def summaryWidth : Nat := 33

/-- The mark of the present job and of the one before it. -/
def markOf (place : Nat) : Char := if place = 0 then '+' else if place = 1 then '-' else ' '

/-- A job with a blank for what each of its processes does. -/
def shown (withProcesses : Bool) (place : Nat) (job : Job) : Text :=
  let number := '[' :: Text.decimal job.number ++ "] ".toList ++ [markOf place, ' ']
  let process := fun (n : Nat) => Text.decimal n ++ [' ']
  let first := (job.processes.head?.map (·.1)).getD 0
  let front := number ++ (if withProcesses then process first else []) ++ job.summary.toList
  let line := front ++ List.replicate (max 1 (summaryWidth - front.length)) ' '
  let others := job.processes.drop 1
  if withProcesses then
    let more := others.flatMap fun (n, _) =>
      let front := " |\n".toList ++ List.replicate number.length ' ' ++ process n
      front ++ List.replicate (max 1 (summaryWidth - (front.length - 3))) ' '
    Reply.line (line ++ more)
  else Reply.line (line ++ others.flatMap fun _ => " | ".toList)

/-- Shows jobs; those that are over are forgotten. -/
def showAll (flags : Flags) : List Job → Acts Text
  | [] => pure []
  | job :: rest => do
    let place := ((← get).jobs.reverse.takeWhile fun (j : Job) => j.number != job.number).length
    let text := if flags.has 'p' then
        Reply.line (Text.decimal ((job.processes.head?.map (·.1)).getD 0))
      else shown (flags.has 'l') place job
    if !job.isRunning && !flags.has 'p' then Acts.dropJob job.number
    pure (text ++ (← showAll flags rest))

/-- The jobs that words name. -/
def named : List Text → Acts (List Job)
  | [] => pure []
  | word :: rest => do
    let job ← Acts.namedJob word
    pure (job :: (← named rest))

/-- Lists jobs. -/
def jobs (arguments : List Text) : Acts Reply := do
  let flags ← Acts.flags [('l', false), ('p', false)] arguments
  Acts.reap none Acts.manyChildren
  let chosen ← if flags.operands.isEmpty then do pure ((← get) : State).jobs.reverse
    else named flags.operands
  pure { output := ← showAll flags chosen }

/-- Waits until some jobs are over; gives whether no signal came before that. -/
def settle (waitedFor : Option Nat) (isOver : State → Bool) : Nat → Acts Bool
  | 0 => pure true
  | fuel + 1 => do
    if isOver (← get) then pure true
    else
      match ← Acts.collect waitedFor true true with
      | .interrupted =>
        if (← Acts.poll).isEmpty then settle waitedFor isOver fuel else pure false
      | .childless => pure true
      | _ => settle waitedFor isOver fuel

/-- The status after a signal. -/
def interruptedBy : Acts Reply := do
  pure (.ofStatus (128 + ((← get).pending.getLast?.getD 0)))

/-- The job whose last process has a number. -/
def ofProcess? (s : State) (process : Nat) : Option Job :=
  s.jobs.reverse.find? fun (j : Job) => (j.processes.getLast?.map (·.1)) == some process

def tell (number : Nat) : Acts Unit :=
  modify fun s =>
    { s with jobs := s.jobs.map fun (j : Job) =>
        if j.number = number then { j with isTold := true } else j }

/-- The status of what is not a child. -/
def unknown : Nat := 127

/-- Waits for the jobs that words name. -/
def waitEach (status : Nat) : List Text → Acts Reply
  | [] => pure (.ofStatus status)
  | word :: rest => do
    let job? ← match word with
      | '%' :: _ => do pure (some (← Acts.namedJob word))
      | digits => do
        let process ← Acts.number digits
        pure (ofProcess? (← get) process)
    match job? with
    | none => waitEach status rest
    | some job =>
      let isOver := fun (s : State) =>
        (s.jobs.find? fun (j : Job) => j.number == job.number).all fun (j : Job) => !j.isRunning
      if ← settle (some job.number) isOver Acts.manyChildren then do
        tell job.number
        waitEach (((← Acts.job? job.number).map Job.status).getD 0) rest
      else interruptedBy

/-- Waits for all jobs, or for those that are named. -/
def wait (arguments : List Text) : Acts Reply := do
  match ← Acts.operands arguments with
  | [] =>
    let isOver := fun (s : State) => s.jobs.all fun (j : Job) => !j.isRunning
    if ← settle none isOver Acts.manyChildren then do
      modify fun s =>
        { s with jobs := s.jobs.map fun (j : Job) => { j with isTold := true } }
      pure {}
    else interruptedBy
  | words => waitEach unknown words

/-- Going on with a job, which takes control of jobs that this shell does not have. -/
def resume (arguments : List Text) : Acts Reply := do
  match ← Acts.operands arguments with
  | [] =>
    if ((← get) : State).jobs.isEmpty then Acts.failWith "No current job"
    else Acts.failWith "job (null) not created under job control"
  | word :: _ => do
    let _ ← Acts.namedJob word
    Acts.fail ("job ".toList ++ word ++ " not created under job control".toList)

end JobShell.Script.Waiting
