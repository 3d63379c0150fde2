import JobShell.Host
import JobShell.Machine.Request

/-!
A process of the machine, and what signals do to it.

A process that is stopped keeps the signals that would end it until it goes on; only `SIGKILL` ends
it at once.  Of the signals kept, one that stands for a fault of the process itself takes effect
first, and otherwise the one with the lowest number.
-/

namespace JobShell.Machine

open Files

/-- A file as it has been opened; the copies of a descriptor share it. -/
inductive Opened
  /-- One of the streams that the shell and its children write to. -/
  | stream (stream : Stream)
  | node (node : NodeId) (place : Nat) (how : Opening)
  | pipe (pipe : Nat) (writes : Bool)
  /-- What is left of a text that is only read. -/
  | text (rest : Bytes)

structure Descriptor where
  number : Nat
  /-- Where the opened file stands in the list of the machine. -/
  opened : Nat
  /-- It is closed when the process goes over to another program. -/
  isPrivate : Bool := false

inductive Phase
  /-- Takes its next turn at a time. -/
  | due (time : Nat)
  | asleep (until_ : Nat)
  /-- Waits until something else happens. -/
  | blocked
  /-- Its end has not been collected. -/
  | ended (how : End)
  deriving DecidableEq, Repr

structure Process where
  number : Nat
  parent : Nat
  /-- The file name of its program. -/
  title : Bytes
  directory : NodeId
  descriptors : List Descriptor
  /-- What it wants to happen on signals, where that is not the usual. -/
  arrangements : List (Nat × Arrangement) := []
  /-- Signals that it has caught and not yet asked for, the latest first. -/
  caught : List Nat := []
  /-- The permission bits that files go without that it makes. -/
  mask : Nat := 0o022
  work : Work
  phase : Phase
  isStopped : Bool := false
  /-- Signals that wait for the process to go on. -/
  waiting : List Nat := []
  /-- When it ended. -/
  endedAt : Nat := 0

namespace Process

def hasEnded (process : Process) : Bool :=
  match process.phase with
  | .ended _ => true
  | _ => false

/-- When the process takes its next turn if nothing happens. -/
def nextTurn? (process : Process) : Option Nat :=
  if process.isStopped then none
  else match process.phase with
    | .due t | .asleep t => some t
    | _ => none

/-- The longest name that is shown of a process. -/
def shownTitle : Nat := 15

/-- The letter for what a process does. -/
def letter (process : Process) : Char :=
  if process.hasEnded then 'Z'
  else if process.isStopped then 'T'
  else match process.phase with
    | .due _ => 'R'
    | _ => 'S'

/-- The line that tells how a process is doing. -/
def statusLine (process : Process) : Bytes :=
  Bytes.ofString s!"{process.number} (" ++ process.title.take shownTitle ++
    Bytes.ofString s!") {process.letter} {process.parent} 1 1 0 -1\n"

def arrangement (process : Process) (signal : Nat) : Arrangement :=
  (process.arrangements.lookup signal).getD .usual

/-- Signals on which nothing can be arranged. -/
def isFirm (signal : Nat) : Bool :=
  signal == Signal.number .kill || signal == Signal.number .stop

def arrange (signal : Nat) (how : Arrangement) (process : Process) : Process :=
  if isFirm signal then process
  else
    let others := process.arrangements.filter (·.1 != signal)
    { process with
      arrangements := if how = .usual then others else (signal, how) :: others }

def finish (how : End) (process : Process) : Process :=
  { process with phase := .ended how, descriptors := [], isStopped := false }

/-- Signals that stand for a fault of the process. -/
def faults : List Nat := [Signal.segv, .bus, .ill, .trap, .fpe, .sys].map Signal.number

/-- The signal that takes effect before the others. -/
def foremost? (signals : List Nat) : Option Nat :=
  match (signals.filter (· ∈ faults)).min? with
  | some signal => some signal
  | none => signals.min?

/-- Goes on after a stop; the signals kept take effect. -/
def resume (process : Process) : Process :=
  match foremost? process.waiting with
  | some signal => process.finish (.killed signal)
  | none => { process with isStopped := false }

/-- How long it takes until a process that is woken by a signal goes on. -/
def wakingTime : Nat := 60000

/-- Wakes a process that waits, for a caught signal. -/
def catch_ (now signal : Nat) (process : Process) : Process :=
  let told := { process with caught := signal :: process.caught.filter (· != signal) }
  match process.phase with
  | .blocked => { told with phase := .due (now + wakingTime) }
  | _ => told

/-- What a signal makes of a process; zero is no signal. -/
def deliver (now signal : Nat) (process : Process) : Process :=
  if process.hasEnded || signal == 0 then process
  else if signal == Signal.number .kill then process.finish (.killed signal)
  else if signal == Signal.number .stop then { process with isStopped := true }
  else
    let resumed :=
      if signal == Signal.number .cont && process.isStopped then process.resume else process
    if resumed.hasEnded then resumed
    else match resumed.arrangement signal with
      | .ignored => resumed
      | .caught => resumed.catch_ now signal
      | .usual =>
        match Signal.action signal with
        | .ignore | .resume => resumed
        | .stop => { resumed with isStopped := true }
        | .terminate =>
          if resumed.isStopped then { resumed with waiting := signal :: resumed.waiting }
          else resumed.finish (.killed signal)

/-- The change is one that the parent is told of. -/
def isNews (before after : Process) : Bool :=
  before.hasEnded != after.hasEnded || before.isStopped != after.isStopped

def descriptor? (process : Process) (number : Nat) : Option Descriptor :=
  process.descriptors.find? (·.number == number)

/-- The lowest number from `least` on that no descriptor has. -/
def freeDescriptor (process : Process) (least : Nat) : Nat :=
  let taken := process.descriptors.map (·.number)
  ((List.range (taken.length + 1)).map (· + least)).find? (fun n => !taken.contains n) |>.getD least

def close (number : Nat) (process : Process) : Process :=
  { process with descriptors := process.descriptors.filter (·.number != number) }

/-- Puts a descriptor in the place of any other of its number. -/
def hold (descriptor : Descriptor) (process : Process) : Process :=
  let others := (process.close descriptor.number).descriptors
  { process with descriptors := descriptor :: others }

/-- What is left of a process when it goes over to another program. -/
def renew (title : Bytes) (work : Work) (process : Process) : Process :=
  { process with
    title, work
    descriptors := process.descriptors.filter (!·.isPrivate)
    arrangements := process.arrangements.filter (·.2 == .ignored)
    caught := [] }

end Process

end JobShell.Machine
