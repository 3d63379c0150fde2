import JobShell.Machine.Image
import JobShell.Machine.Process

/-!
A small machine: files, a clock, and processes that descend from the shell.

Processes run only while the shell waits; what they write is kept in order until it is handed on.
A process whose parent has ended is nobody's, and is forgotten when it ends.
-/

namespace JobShell

open Files Machine

structure Machine where
  tree : Tree
  /-- The working directory of the shell. -/
  directory : NodeId := Tree.root
  env : Environment := {}
  hostName : String := "localhost"
  /-- Nanoseconds since 1970. -/
  clock : Nat := 0
  /-- The number of the shell as a process. -/
  shellNumber : Nat := 1
  shellHasEnded : Bool := false
  /-- The processes in order of number. -/
  processes : List Process := []
  nextNumber : Nat := 2
  /-- The files that have been opened; the first three are those that the shell hands on. -/
  opened : Array Opened := #[.text [], .stream .out, .stream .err]
  /-- What is in each pipe. -/
  pipes : Array Bytes := #[]
  isWatching : Bool := false
  hasNews : Bool := false
  catchesInterrupts : Bool := false
  /-- What has happened and not yet been told, the latest first. -/
  pending : List Output := []

namespace Machine

def process? (machine : Machine) (number : Nat) : Option Process :=
  machine.processes.find? (·.number == number)

/-- Adds to what is to be told. -/
def tell (output : Output) (machine : Machine) : Machine :=
  { machine with pending := output :: machine.pending }

/-- Hands on what has happened, together with an answer. -/
def answer {α : Type} (value : α) (machine : Machine) : Outcome Output Machine α :=
  ⟨value, machine.pending.reverse, { machine with pending := [] }⟩

/-- The children of a process. -/
def childrenOf (machine : Machine) (parent : Nat) : List Process :=
  machine.processes.filter (·.parent == parent)

/-- Whether somebody may still ask for the end of a process. -/
def isMissed (machine : Machine) (process : Process) : Bool :=
  (process.parent == machine.shellNumber && !machine.shellHasEnded) ||
    (machine.process? process.parent).any (!·.hasEnded)

/-- Nobody's number, under which orphans are listed. -/
def nobody : Nat := 0

/-- Takes off the list what has ended and is not missed, and makes orphans of the children of what
has ended. -/
def tidy (machine : Machine) : Machine :=
  let kept := machine.processes.filter fun p => !p.hasEnded || machine.isMissed p
  { machine with
    processes := kept.map fun p => if machine.isMissed p then p else { p with parent := nobody } }

/-- Waiting processes look again whether they can go on. -/
def stir (machine : Machine) : Machine :=
  if machine.processes.any (·.phase == .blocked) then
    { machine with
      processes := machine.processes.map fun p =>
        if p.phase = .blocked then { p with phase := .due machine.clock } else p }
  else machine

/-- Puts a changed process in its place; its parent is told if it has ended or stopped, and the
shell if it watches. -/
def put (before after : Process) (machine : Machine) : Machine :=
  let isNews := Process.isNews before after
  let hasEnded := before.hasEnded != after.hasEnded
  let after := if hasEnded then { after with endedAt := machine.clock } else after
  let tell := fun (p : Process) =>
    if isNews && p.number = after.parent then
      p.deliver machine.clock (Signal.number .chld)
    else p
  let changed := { machine with
    processes := machine.processes.map fun p => if p.number = after.number then after else tell p
    hasNews :=
      machine.hasNews || (machine.isWatching && before.parent == machine.shellNumber && isNews) }
  if hasEnded then changed.tidy.stir else changed

/-- Changes a process, if there is one of that number. -/
def modify (number : Nat) (f : Process → Process) (machine : Machine) : Machine :=
  match machine.process? number with
  | some process => machine.put process (f process)
  | none => machine

/-- What a signal does to the shell. -/
def signalShell (signal : Nat) (machine : Machine) : Machine :=
  if machine.shellHasEnded || signal = 0 || signal = Signal.number .pipe then machine
  else if signal = Signal.number .int && machine.catchesInterrupts then
    machine.tell (.interrupted machine.clock)
  else if Signal.action signal = .terminate then
    ({ machine with shellHasEnded := true }.tell (.ended signal)).tidy
  else machine

/-- Sends a signal to a process, if there is one of that number. -/
def send (number : Int) (signal : Nat) (machine : Machine) : Machine :=
  if number = machine.shellNumber then machine.signalShell signal
  else machine.modify number.toNat (·.deliver machine.clock signal)

/-- Adds a process; gives its number. -/
def add (make : Nat → Process) (machine : Machine) : Nat × Machine :=
  (machine.nextNumber,
    { machine with
      processes := machine.processes ++ [make machine.nextNumber]
      nextNumber := machine.nextNumber + 1 })

/-- Takes a process off the list whose end has been collected. -/
def drop (number : Nat) (machine : Machine) : Machine :=
  { machine with processes := machine.processes.filter (·.number != number) }

/-- What a descriptor of a process stands for. -/
def openedBy (machine : Machine) (process : Process) (number : Nat) : Option Opened :=
  (process.descriptor? number).bind fun d => machine.opened[d.opened]?

/-- Whether a process holds an end of a pipe. -/
def isHeld (machine : Machine) (pipe : Nat) (writes : Bool) : Bool :=
  machine.processes.any fun p => p.descriptors.any fun d =>
    match machine.opened[d.opened]? with
    | some (.pipe n w) => n == pipe && w == writes
    | _ => false

end Machine

end JobShell
