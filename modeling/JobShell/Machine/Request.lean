import JobShell.Environment
import JobShell.Errno
import JobShell.Files.Tree

/-!
What a process asks of the machine, and a process as the tree of its requests.

A process is known by what it asks for next and by how it goes on with each answer (`Work`).  It is
written down as a `Doing`, a computation that gives its result to what follows it; a process sees
nothing of the machine but the answers, so programs need no knowledge of how the machine keeps its
files, clock and processes.
-/

namespace JobShell.Machine

open Files

/-- How a process ended. -/
inductive End
  | exited (status : Nat)
  | killed (signal : Nat)
  deriving DecidableEq, Repr

/-- The kinds of file that a program can tell apart. -/
inductive Kind
  | directory | file | link | device | pipe
  deriving DecidableEq, Repr

/-- What a program may learn of a file. -/
structure Facts where
  /-- Two paths lead to the same file if they lead to the same node. -/
  node : NodeId
  kind : Kind
  size : Nat := 0
  permissions : Nat := 0o644
  modified : Nat := 0

/-- How a file is to be opened. -/
structure Opening where
  reads : Bool := false
  writes : Bool := false
  /-- A file that is not there is made. -/
  creates : Bool := false
  truncates : Bool := false
  /-- What is written goes behind the end. -/
  appends : Bool := false
  /-- The file must not be there yet. -/
  isNew : Bool := false

/-- What a process wants to happen on a signal. -/
inductive Arrangement
  | usual | ignored
  /-- The signal is kept until the process asks for it. -/
  | caught
  deriving DecidableEq, Repr

/-- What a process is told of its children. -/
inductive ChildNews
  | ended (child : Nat) (how : End)
  /-- There are children, and none has ended. -/
  | nothing
  | childless
  /-- A signal came first. -/
  | interrupted

inductive Request
  /-- Nothing but a turn for the others. -/
  | pass
  | sleep (nanoseconds : Nat)
  /-- At most so many bytes; none at the end of the file. -/
  | read (descriptor count : Nat)
  | write (descriptor : Nat) (bytes : Bytes)
  | openFile (path : Bytes) (how : Opening)
  | close (descriptor : Nat)
  /-- A copy of a descriptor with a number that is not less than `least`; it is closed when the
  process goes over to another program. -/
  | copy (descriptor least : Nat)
  /-- Makes `target` a copy of a descriptor. -/
  | copyTo (descriptor target : Nat)
  /-- The descriptors of a new pipe: for reading and for writing. -/
  | pipe
  | isOpen (descriptor : Nat)
  /-- Collects a child that has ended, and waits for one if `waits` says so. -/
  | collect (waits : Bool) (interruptible : Bool)
  /-- Goes over to the program in a file; an answer tells why that failed. -/
  | execute (path : Bytes) (words : List Bytes) (env : Environment)
  | signal (process : Int) (number : Nat)
  | arrange (signal : Nat) (how : Arrangement)
  /-- The caught signals that have come since the last such request. -/
  | takeSignals
  | changeDirectory (path : Bytes)
  | directoryPath
  | inspect (path : Bytes) (follow : Bool)
  | list (path : Bytes)
  | makeDirectory (path : Bytes) (permissions : Nat)
  | removeDirectory (path : Bytes)
  /-- Gives a file another name; without `replaces` the name must be free. -/
  | rename (source target : Bytes) (replaces : Bool)
  | remove (path : Bytes)
  /-- The own number and that of the parent. -/
  | identity
  | time
  /-- Sets the permission bits that new files go without; gives the old ones. -/
  | setMask (mask : Nat)
  /-- Whether a signal is ignored. -/
  | isIgnored (signal : Nat)

/-- What a request is answered with. -/
@[reducible] def Request.Answer : Request → Type
  | .pass | .sleep _ | .close _ | .arrange _ _ => Unit
  | .read _ _ => Except Errno Bytes
  | .write _ _ => Except Errno Unit
  | .openFile _ _ => Except Errno Nat
  | .copy _ _ => Except Errno Nat
  | .copyTo _ _ => Except Errno Unit
  | .pipe => Nat × Nat
  | .isOpen _ | .isIgnored _ => Bool
  | .collect _ _ => ChildNews
  | .execute _ _ _ => Errno
  | .signal _ _ => Except Errno Unit
  | .takeSignals => List Nat
  | .changeDirectory _ => Except Errno Unit
  | .directoryPath => Except Errno Bytes
  | .inspect _ _ => Except Errno Facts
  | .list _ => Except Errno (List Bytes)
  | .makeDirectory _ _ => Except Errno Unit
  | .removeDirectory _ => Except Errno Unit
  | .rename _ _ _ => Except Errno Unit
  | .remove _ => Except Errno Unit
  | .identity => Nat × Nat
  | .time => Nat
  | .setMask _ => Nat

/-- What a process still has to do. -/
inductive Work
  | stop (status : Nat)
  | call (request : Request) (next : request.Answer → Work)
  /-- Goes on beside a child that does something else; the parent learns its number. -/
  | fork (child : Work) (next : Nat → Work)
  deriving Inhabited

/-- A computation of a process: what it does with the work that follows its result. -/
def Doing (α : Type) : Type := (α → Work) → Work

namespace Doing

variable {α β : Type}

instance : Monad Doing where
  pure a := fun next => next a
  bind doing f := fun next => doing fun a => f a next

instance : Inhabited (Doing α) := ⟨fun _ => .stop 0⟩

/-- Makes a request. -/
def ask (request : Request) : Doing request.Answer := fun next => .call request next

/-- Ends the process at once. -/
def stop (status : Nat) : Doing α := fun _ => .stop status

/-- Starts a child; gives its number. -/
def fork (child : Work) : Doing Nat := fun next => .fork child next

/-- The whole work of a process whose result is its status. -/
def work (doing : Doing Nat) : Work := doing .stop

/-- Everything that can still be read, in at most so many portions. -/
def readAll (descriptor : Nat) : Nat → Doing (Except Errno Bytes)
  | 0 => pure (.ok [])
  | portions + 1 => do
    match ← ask (.read descriptor 65536) with
    | .error e => pure (.error e)
    | .ok [] => pure (.ok [])
    | .ok bytes =>
      match ← readAll descriptor portions with
      | .error e => pure (.error e)
      | .ok more => pure (.ok (bytes ++ more))

end Doing

end JobShell.Machine
