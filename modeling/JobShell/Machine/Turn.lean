import JobShell.Machine.Installed
import JobShell.Machine.Perform

/-!
The turns of processes.

Each process that can go on has a time at which it takes its next turn, and the one whose time comes
first is next.  A turn makes one request.
-/

namespace JobShell.Machine

open Files

/-- How long the parts of the work take, in nanoseconds. -/
def Request.duration : Request → Nat
  | .pass => 2000
  | .read _ _ | .write _ _ | .pipe | .signal _ _ => 5000
  | .openFile _ _ | .inspect _ _ | .list _ => 8000
  | .makeDirectory _ _ | .removeDirectory _ | .rename _ _ _ | .remove _ => 20000
  | .execute _ _ _ => 500000
  | _ => 1000

/-- How long a process takes to make a child, and how long the child takes to start. -/
def forkTime : Nat := 100000
def birthTime : Nat := 150000

/-- Goes on with other work after a time. -/
def goOn (number : Nat) (work : Work) (phase : Phase) (machine : Machine) : Machine :=
  machine.modify number fun p => if p.hasEnded then p else { p with work, phase }

/-- Makes a child that does its own work with all that the parent has. -/
def forkChild (parent : Process) (child : Work) (next : Nat → Work) (machine : Machine) : Machine :=
  let (number, after) := machine.add fun number =>
    { parent with
      number, parent := parent.number, work := child, caught := [], waiting := []
      isStopped := false, phase := .due (machine.clock + birthTime) }
  after.goOn parent.number (next number) (.due (machine.clock + forkTime))

/-- Goes over to another program. -/
def executeImage (process : Process) (image : Image) (env : Environment) (machine : Machine) :
    Machine :=
  let renewed := process.renew image.title (Doing.work (image.doing env))
  (machine.put process
    { renewed with phase := .due (machine.clock + Request.duration (.execute [] [] env)) }).stir

/-- Gives a process its turn. -/
def take (process : Process) (machine : Machine) : Machine :=
  let number := process.number
  let soon := fun (request : Request) => Phase.due (machine.clock + request.duration)
  match process.work with
  | .stop status => machine.put process (process.finish (.exited (status % 256)))
  | .fork child next => machine.forkChild process child next
  | .call (.sleep time) next =>
    machine.goOn number (next ()) (.asleep (machine.clock + time))
  | .call (.execute path words env) next =>
    match imageOf machine.tree process.directory path words with
    | .ok image => machine.executeImage process image env
    | .error e => machine.goOn number (next e) (soon (.close 0))
  | .call (.write descriptor bytes) next =>
    match machine.write process descriptor bytes with
    | .failed e => machine.goOn number (next (.error e)) (soon (.write descriptor []))
    | .taken count after =>
      if count = bytes.length then
        after.goOn number (next (.ok ())) (soon (.write descriptor []))
      else
        after.goOn number (.call (.write descriptor (bytes.drop count)) next) .blocked
  | .call request next =>
    match machine.perform process request with
    | some (answer, after) => after.goOn number (next answer) (soon request)
    | none => machine.goOn number process.work .blocked

/-- The process whose turn comes first. -/
def next? (machine : Machine) : Option (Nat × Process) :=
  machine.processes.foldl (fun best p =>
    match p.nextTurn?, best with
    | none, _ => best
    | some t, none => some (t, p)
    | some t, some (u, _) => if t < u then some (t, p) else best) none

/-- One turn, for which the clock may have to go on; nothing happens if nothing can. -/
def advance (machine : Machine) : Option Machine :=
  machine.next?.map fun (time, process) =>
    { machine with clock := max machine.clock time }.take process

/-- Lets the machine run until the goal is reached, for so many turns at most. -/
def runUntil (goal : Machine → Bool) : Nat → Machine → Machine
  | 0, machine => machine
  | turns + 1, machine =>
    if goal machine then machine
    else match machine.advance with
      | some later => runUntil goal turns later
      | none => machine

/-- After so many turns a wait is given up as one without end. -/
def patience : Nat := 5000000

/-- The process of a number has ended, or there is none. -/
def isOver (number : Nat) (machine : Machine) : Bool :=
  (machine.process? number).all (·.hasEnded)

/-- Waits for the end of a child without collecting it. -/
def settle (number : Nat) (machine : Machine) : Machine :=
  machine.runUntil (isOver number) patience

/-- Lets everything run to its end. -/
def runOut (machine : Machine) : Machine :=
  machine.runUntil (·.processes.all (·.hasEnded)) patience

end JobShell.Machine
