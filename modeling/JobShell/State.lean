import JobShell.Status

/-!
The state that the read loop shares with the built-in commands.

Built-ins change it by requests only; no request takes an exit request back
(`shouldExit_apply`).
-/

namespace JobShell

/-- Whether the shell is to end and with which code, and how the last command ended. -/
structure ShellState where
  shouldExit : Bool := false
  exitCode : Int := 0
  lastStatus : Option Status := none
  deriving DecidableEq, Repr, Inhabited

namespace ShellState

def requestExit (s : ShellState) : ShellState := { s with shouldExit := true }

def requestExitWith (s : ShellState) (code : Int) : ShellState :=
  { s with shouldExit := true, exitCode := code }

def record (s : ShellState) (status : Status) : ShellState :=
  { s with lastStatus := some status }

/-- A change that a built-in asks for. -/
inductive Request
  | exit
  | exitWith (code : Int)
  | record (status : Status)
  deriving DecidableEq, Repr

def apply (s : ShellState) : Request → ShellState
  | .exit => s.requestExit
  | .exitWith code => s.requestExitWith code
  | .record status => s.record status

def applyAll (s : ShellState) (requests : List Request) : ShellState :=
  requests.foldl apply s

theorem shouldExit_apply {s : ShellState} (h : s.shouldExit = true) (r : Request) :
    (s.apply r).shouldExit = true := by
  cases r <;> simp [apply, requestExit, requestExitWith, record, h]

theorem shouldExit_applyAll {s : ShellState} (h : s.shouldExit = true) (rs : List Request) :
    (s.applyAll rs).shouldExit = true := by
  induction rs generalizing s with
  | nil => exact h
  | cons r rs ih => exact ih (shouldExit_apply h r)

end ShellState

end JobShell
