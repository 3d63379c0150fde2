import JobShell.Signal

/-!
How a command ended.

`Status.code` is the number that the rest of the shell works with: the result of a built-in or the
exit code of a child, 128 and the signal number for a killed child, zero for a child that was left
running.
-/

namespace JobShell

/-- The number of a process. -/
structure Pid where
  number : Int
  deriving DecidableEq, Repr, Inhabited

inductive Status
  /-- The value that a built-in returned. -/
  | builtin (code : Int)
  /-- The child ended by itself. -/
  | exited (code : Int)
  /-- The child was killed. -/
  | signaled (signal : Signal)
  /-- The child runs on in the background. -/
  | detached (pid : Pid)
  deriving DecidableEq, Repr, Inhabited

namespace Status

def code : Status → Int
  | builtin c => c
  | exited c => c
  | signaled s => 128 + s.number
  | detached _ => 0

def success (s : Status) : Bool := s.code == 0

/-- The wording of job notices. -/
def summary : Status → String
  | builtin c => if c = 0 then "Done" else s!"Exit {c}"
  | exited c => if c = 0 then "Done" else s!"Exit {c}"
  | signaled s => s!"Killed ({s.name})"
  | detached p => s!"Running (pid {p.number})"

/-- The structural form of log lines. -/
def structural : Status → String
  | builtin c => s!"Builtin({c})"
  | exited c => s!"Exited({c})"
  | signaled s => s!"Signaled({s.name})"
  | detached p => s!"Detached(Pid({p.number}))"

end Status

end JobShell
