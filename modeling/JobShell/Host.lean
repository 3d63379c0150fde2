import JobShell.Argv
import JobShell.Failure
import JobShell.Status
import JobShell.Text.Bytes

/-!
The system on which the shell runs, as far as the shell asks anything of it.

A host is a state and the answers it gives; each answer comes with what the children wrote meanwhile
and with the state after it.  Every way in which children may run, end and write is some host, so a
statement about all hosts holds for all of them.
-/

namespace JobShell

/-- The two streams that commands write to. -/
inductive Stream
  | out | err
  deriving DecidableEq, Repr

/-- What is to be told of the time that has passed while the host was asked for something. -/
inductive Output
  /-- A child wrote bytes. -/
  | written (stream : Stream) (bytes : Bytes)
  /-- The shell was interrupted, which it survived. -/
  | interrupted (time : Nat)
  /-- A signal ended the shell; its children may still write. -/
  | ended (signal : Nat)
  deriving DecidableEq, Repr

/-- What came of asking for something: the answer, what was written, and the state left. -/
structure Outcome (ε σ α : Type) where
  value : α
  written : List ε
  state : σ

/-- What a question about a child is answered with. -/
inductive WaitAnswer
  | exited (code : Int)
  | signaled (signal : Signal)
  | alive
  /-- A change of the child that is not its end; the text names it. -/
  | changed (event : String)
  | failed (errno : Errno)
  deriving DecidableEq, Repr

/-- The answer settles the fate of the child: asking again is no use. -/
def WaitAnswer.isFinal : WaitAnswer → Bool
  | exited _ | signaled _ => true
  | alive | changed _ => false
  | failed e => e != Errno.interrupted

class Host (σ : Type) where
  /-- Starts a child on a program. -/
  launch : Argv → σ → Outcome Output σ (Except Errno Pid)
  /-- Waits for a child to end. -/
  wait : Pid → σ → Outcome Output σ WaitAnswer
  /-- Looks whether a child has ended, without waiting. -/
  look : Pid → σ → Outcome Output σ WaitAnswer
  /-- Whether any child has changed since the question was last asked; only told once
  `watchChildren` has succeeded. -/
  takeChildNews : σ → Outcome Output σ Bool
  watchChildren : σ → Outcome Output σ (Except String Unit)
  /-- Keeps the shell alive when the keyboard interrupts it. -/
  catchInterrupts : σ → Outcome Output σ (Except String Unit)
  changeDirectory : Bytes → σ → Outcome Output σ (Except IoError Unit)
  /-- Hands on what is still kept back of the standard output. -/
  flush : σ → Outcome Output σ (Except IoError Unit)
  home : σ → Option Bytes
  hostName : σ → String
  userName : σ → String
  /-- The time in nanoseconds since 1970. -/
  now : σ → Nat
  /-- A bound on how often a wait for this child is still answered without its end. -/
  patience : Pid → σ → Nat
  patience_wait : ∀ {pid : Pid} {host : σ}, (wait pid host).value.isFinal = false →
    patience pid (wait pid host).state < patience pid host

end JobShell
