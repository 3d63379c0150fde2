import JobShell.Script.State
import JobShell.Signal

/-!
The jobs of the system shell: the children it has started and not forgotten.
-/

namespace JobShell.Script

open Machine Toolbox

/-- How a signal is described. -/
def signalText (signal : Nat) : String :=
  match Signal.ofNumber? signal with
  | some .hup => "Hangup"
  | some .int => "Interrupt"
  | some .quit => "Quit"
  | some .ill => "Illegal instruction"
  | some .trap => "Trace/breakpoint trap"
  | some .abrt => "Aborted"
  | some .bus => "Bus error"
  | some .fpe => "Floating point exception"
  | some .kill => "Killed"
  | some .usr1 => "User defined signal 1"
  | some .segv => "Segmentation fault"
  | some .usr2 => "User defined signal 2"
  | some .pipe => "Broken pipe"
  | some .alrm => "Alarm clock"
  | some .term => "Terminated"
  | some .stkflt => "Stack fault"
  | some .chld => "Child exited"
  | some .cont => "Continued"
  | some .stop => "Stopped (signal)"
  | some .tstp => "Stopped"
  | some .ttin => "Stopped (tty input)"
  | some .ttou => "Stopped (tty output)"
  | some .urg => "Urgent I/O condition"
  | some .xcpu => "CPU time limit exceeded"
  | some .xfsz => "File size limit exceeded"
  | some .vtalrm => "Virtual timer expired"
  | some .prof => "Profiling timer expired"
  | some .winch => "Window changed"
  | some .io => "I/O possible"
  | some .pwr => "Power failure"
  | some .sys => "Bad system call"
  | none =>
    if 34 ≤ signal then s!"Real-time signal {signal - 34}" else s!"Unknown signal {signal}"

/-- The status that stands for an end. -/
def statusOf : End → Nat
  | .exited status => status
  | .killed signal => 128 + signal

namespace Job

def isRunning (job : Job) : Bool := job.processes.any (·.2.isNone)

/-- The status of a job is that of its last process. -/
def status (job : Job) : Nat :=
  match job.processes.getLast? with
  | some (_, some how) => statusOf how
  | _ => 0

def has (job : Job) (process : Nat) : Bool := job.processes.any (·.1 == process)

/-- Notes the end of a process. -/
def note (process : Nat) (how : End) (job : Job) : Job :=
  { job with
    processes := job.processes.map fun p => if p.1 = process then (p.1, some how) else p }

/-- How a job is doing. -/
def summary (job : Job) : String :=
  if job.isRunning then "Running"
  else match job.processes.getLast? with
    | some (_, some (.killed signal)) => signalText signal
    | some (_, some (.exited status)) => if status = 0 then "Done" else s!"Done({status})"
    | _ => "Done"

end Job

namespace Acts

/-- Adds a job under the lowest number that is free, or has become so. -/
def addJob (processes : List Nat) : Acts Nat := do
  let s : State ← get
  let isTaken := fun (n : Nat) => s.jobs.any fun (j : Job) => j.number == n && (j.isRunning || !j.isTold)
  let number := ((List.range (s.jobs.length + 1)).map (· + 1)).find? (!isTaken ·) |>.getD 1
  let job : Job := { number, processes := processes.map fun p => (p, none) }
  set { s with jobs := s.jobs.filter (fun (j : Job) => j.number != number) ++ [job] }
  pure number

def dropJob (number : Nat) : Acts Unit :=
  modify fun s => { s with jobs := s.jobs.filter fun (j : Job) => j.number != number }

def job? (number : Nat) : Acts (Option Job) := do
  pure ((← get).jobs.find? fun (j : Job) => j.number == number)

/-- Signals that need no words when a job is ended by them. -/
def quietSignals : List Nat := [Signal.int, .pipe].map Signal.number

/-- Collects a child and notes its end; what ended a child of the job that is waited for is told. -/
def collect (waitedFor : Option Nat) (waits interruptible : Bool) : Acts ChildNews := do
  let news ← ask (.collect waits interruptible)
  match news with
  | .ended process how => do
    let s : State ← get
    let owner := s.jobs.find? fun (j : Job) => j.has process
    set { s with jobs := s.jobs.map fun (j : Job) => if j.has process then j.note process how else j }
    match how with
    | .killed signal =>
      if waitedFor.isSome && owner.map Job.number = waitedFor && !quietSignals.contains signal then
        let _ ← write 2 ((signalText signal).toList ++ ['\n'])
    | .exited _ => pure ()
  | _ => pure ()
  pure news

/-- Waits until all processes of a job have ended, for so many of its children at most. -/
def waitFor (number : Nat) : Nat → Acts Unit
  | 0 => pure ()
  | fuel + 1 => do
    match ← job? number with
    | none => pure ()
    | some job =>
      if job.isRunning then
        match ← collect (some number) true false with
        | .childless => pure ()
        | _ => waitFor number fuel

/-- Collects the children that have ended, without waiting. -/
def reap (waitedFor : Option Nat) : Nat → Acts Unit
  | 0 => pure ()
  | fuel + 1 => do
    match ← collect waitedFor false false with
    | .ended _ _ => reap waitedFor fuel
    | _ => pure ()

/-- The job that a word names: by its number, by what it did, or as the present or previous one. -/
def namedJob (word : Text) : Acts Job := do
  let latest := ((← get) : State).jobs.reverse
  let demand := fun (job : Option Job) (complaint : Text) =>
    match job with
    | some job => pure job
    | none => fail complaint
  let missing := "No such job: ".toList ++ word
  match word with
  | ['%'] | ['%', '+'] | ['%', '%'] => demand latest.head? "No current job".toList
  | ['%', '-'] => demand latest[1]? "No previous job".toList
  | '%' :: '?' :: [] =>
    match latest with
    | [job] => pure job
    | [] => fail missing
    | _ => fail (word ++ ": ambiguous".toList)
  | '%' :: digits =>
    match Text.number? digits with
    | some n => demand (latest.find? fun (j : Job) => j.number == n) missing
    | none => fail missing
  | _ => fail missing

/-- More children than any shell has. -/
def manyChildren : Nat := 1000000

/-- Waits for a job and forgets it; gives its status. -/
def finishJob (number : Nat) : Acts Nat := do
  waitFor number manyChildren
  reap (some number) manyChildren
  let job ← job? number
  dropJob number
  pure ((job.map Job.status).getD 0)

end Acts

end JobShell.Script
