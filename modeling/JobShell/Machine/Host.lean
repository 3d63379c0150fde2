import JobShell.Machine.Launch
import JobShell.Machine.Turn

/-!
The machine as a host of the shell.

A wait lets the machine run until the child has ended, so its answer is always final.  When a signal
has ended the shell, nothing is started any more and there is nothing to wait for.
-/

namespace JobShell.Machine

open Files

/-- The descriptors that a child of the shell starts with. -/
def firstDescriptors : List Descriptor := [⟨0, 0, false⟩, ⟨1, 1, false⟩, ⟨2, 2, false⟩]

/-- How long it takes the shell to start a child. -/
def launchTime : Nat := 100000

/-- Starts a child on a program. -/
def launch (argv : Argv) (machine : Machine) : Outcome Output Machine (Except Errno Pid) :=
  if machine.shellHasEnded then machine.answer (.error .noProcess)
  else
    let (number, after) := machine.add fun number =>
      { number, parent := machine.shellNumber, title := Bytes.ofString "mish"
        directory := machine.directory, descriptors := firstDescriptors
        arrangements := ignoredFromStart, work := Launch.work Launch.find argv machine.env
        phase := .due (machine.clock + birthTime) }
    { after with clock := after.clock + launchTime }.answer (.ok ⟨number⟩)

/-- What is told of an end; a signal without a name cannot be told. -/
def fateOf : End → WaitAnswer
  | .exited status => .exited status
  | .killed signal =>
    match Signal.ofNumber? signal with
    | some s => .signaled s
    | none => .failed Errno.invalid

/-- Collects a child if it has ended. -/
def collect (process : Process) (otherwise : WaitAnswer) (machine : Machine) :
    WaitAnswer × Machine :=
  match process.phase with
  | .ended how => (fateOf how, machine.drop process.number)
  | _ => (otherwise, machine)

/-- The child of the shell with a number. -/
def child? (number : Nat) (machine : Machine) : Option Process :=
  (machine.childrenOf machine.shellNumber).find? (·.number == number)

/-- The wait for a child is over, or the shell has been ended. -/
def isDone (number : Nat) (machine : Machine) : Bool :=
  machine.shellHasEnded || machine.isOver number

/-- Waits for the child of this number. -/
def waitFor (number : Nat) (machine : Machine) : WaitAnswer × Machine :=
  if (machine.child? number).isNone then (.failed Errno.noChild, machine)
  else
    let later := machine.runUntil (isDone number) patience
    match later.child? number with
    | none => (.failed Errno.noChild, later)
    | some process => later.collect process (.failed Errno.deadlock)

/-- A child of the shell has ended, or the shell itself. -/
def hasNewEnd (machine : Machine) : Bool :=
  machine.shellHasEnded || (machine.childrenOf machine.shellNumber).any (·.hasEnded)

/-- The first child of the shell that has ended. -/
def endedChild? (machine : Machine) : Option Process :=
  (machine.childrenOf machine.shellNumber).find? (·.hasEnded)

def isChildless (machine : Machine) : Bool := (machine.childrenOf machine.shellNumber).isEmpty

/-- Waits for any child. -/
def waitForAny (machine : Machine) : WaitAnswer × Machine :=
  if machine.isChildless then (.failed Errno.noChild, machine)
  else
    let later := machine.runUntil hasNewEnd patience
    match later.endedChild? with
    | some process => later.collect process (.failed Errno.deadlock)
    | none => (.failed Errno.deadlock, later)

/-- The least process number, which stands for no group. -/
def leastNumber : Int := -2147483648

/-- Waits for the child of a positive number, for any child at -1 and 0, and for a child in the
group of a negative number, of which there is none. -/
def waitAnswer (pid : Pid) (machine : Machine) : WaitAnswer × Machine :=
  if 0 < pid.number then machine.waitFor pid.number.toNat
  else if pid.number = 0 ∨ pid.number = -1 then machine.waitForAny
  else if pid.number = leastNumber then (.failed Errno.noProcess, machine)
  else (.failed Errno.noChild, machine)

/-- Looks at a child without letting the machine run. -/
def lookAnswer (pid : Pid) (machine : Machine) : WaitAnswer × Machine :=
  if 0 < pid.number then
    match machine.child? pid.number.toNat with
    | some process => machine.collect process .alive
    | none => (.failed Errno.noChild, machine)
  else if pid.number = 0 ∨ pid.number = -1 then
    match machine.endedChild? with
    | some process => machine.collect process .alive
    | none => (if machine.isChildless then .failed Errno.noChild else .alive, machine)
  else if pid.number = leastNumber then (.failed Errno.noProcess, machine)
  else (.failed Errno.noChild, machine)

/-- The shell has left; what its children still do is done. -/
def leave (machine : Machine) : Outcome Output Machine Unit :=
  { machine with shellHasEnded := true }.tidy.runOut.answer ()

def handlerTaken : String := "Ctrl-C error: Ctrl-C signal handler already registered"

/-- The interrupt handler can be set up once. -/
def catchInterrupts (machine : Machine) : Outcome Output Machine (Except String Unit) :=
  if machine.catchesInterrupts then machine.answer (.error handlerTaken)
  else { machine with catchesInterrupts := true }.answer (.ok ())

/-- Changes the working directory; a name with a null character is refused beforehand. -/
def changeDirectory (path : Bytes) (machine : Machine) :
    Outcome Output Machine (Except IoError Unit) :=
  if path.contains 0 then machine.answer (.error .nullInName)
  else match machine.tree.resolveDirectory machine.directory path with
    | .ok directory => { machine with directory }.answer (.ok ())
    | .error errno => machine.answer (.error (.system errno))

theorem isFinal_fateOf (how : End) : (fateOf how).isFinal = true := by
  cases how with
  | exited status => rfl
  | killed signal =>
    simp only [fateOf]
    cases Signal.ofNumber? signal <;> rfl

theorem isFinal_collect {process : Process} {otherwise : WaitAnswer} {machine : Machine}
    (h : otherwise.isFinal = true) :
    (machine.collect process otherwise).1.isFinal = true := by
  unfold collect
  split
  · exact isFinal_fateOf _
  · exact h

/-- A wait is answered with the end of the child or with a failure that lasts. -/
theorem isFinal_waitAnswer (pid : Pid) (machine : Machine) :
    (machine.waitAnswer pid).1.isFinal = true := by
  unfold waitAnswer waitFor waitForAny
  split
  · split
    · rfl
    · simp only
      split
      · rfl
      · exact isFinal_collect rfl
  split
  · split
    · rfl
    · simp only
      split
      · exact isFinal_collect rfl
      · rfl
  split <;> rfl

instance : Host Machine where
  launch := launch
  wait pid machine :=
    let (value, later) := machine.waitAnswer pid
    later.answer value
  look pid machine :=
    let (value, later) := machine.lookAnswer pid
    later.answer value
  takeChildNews machine := { machine with hasNews := false }.answer machine.hasNews
  watchChildren machine := { machine with isWatching := true }.answer (.ok ())
  catchInterrupts := catchInterrupts
  changeDirectory := changeDirectory
  flush machine := machine.answer (.ok ())
  home machine := (machine.env.get? "HOME").filter (!·.isEmpty)
  hostName machine := machine.hostName
  userName machine := (machine.env.text? "USER").getD ""
  now machine := machine.clock
  patience _ _ := 0
  patience_wait h := by
    have := isFinal_waitAnswer _ _ ▸ h
    cases this

end JobShell.Machine
