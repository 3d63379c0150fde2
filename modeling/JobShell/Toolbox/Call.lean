import JobShell.Machine.Request
import JobShell.Toolbox.Text

/-!
A program that has been called, and what it writes.

A program keeps its output until it is done or has to complain; output that cannot be written makes
it fail.
-/

namespace JobShell.Toolbox

open Machine

/-- A program as it has been called. -/
structure Call where
  /-- The name it was called by. -/
  name : Text
  arguments : List Text
  env : Environment := {}

/-- Writes to a descriptor; nothing is done for an empty text. -/
def write (descriptor : Nat) (text : Text) : Doing (Except Errno Unit) :=
  if text.isEmpty then pure (.ok ()) else Doing.ask (.write descriptor (Bytes.ofLatin text))

/-- Writes to the standard error. -/
def complain (text : Text) : Doing Unit := do
  let _ ← write 2 text
  pure ()

namespace Call

/-- A message under the name of the program, on a line of its own. -/
def message (call : Call) (text : Text) : Text := call.name ++ ": ".toList ++ text ++ ['\n']

def hint (call : Call) : Text :=
  "Try '".toList ++ call.name ++ " --help' for more information.\n".toList

/-- Complains and says where help is to be found. -/
def misuse (call : Call) (text : Text) (status : Nat := 1) : Doing Nat := do
  complain (call.message text ++ call.hint)
  pure status

/-- Writes the output and ends with a status, which is a failure if that cannot be done. -/
def finish (call : Call) (output : Text) (status : Nat) (failure : Nat := 1) : Doing Nat := do
  match ← write 1 output with
  | .ok () => pure status
  | .error e =>
    complain (call.message ("write error: ".toList ++ e.wording.toList))
    pure failure

/-- The texts of an error behind one that says what could not be done. -/
def because (what : Text) (e : Errno) : Text := what ++ ": ".toList ++ e.wording.toList

end Call

/-- A path of a text. -/
def path (text : Text) : Bytes := Bytes.ofLatin text

end JobShell.Toolbox
