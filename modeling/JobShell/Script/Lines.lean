import JobShell.Script.Grammar
import JobShell.Script.State

/-!
Carrying out the commands of a text, line by line.

What one line does can change how the next is read, and a line that cannot be read does not keep
those before it from being carried out.
-/

namespace JobShell.Script

open Toolbox

/-- How the end of a command matters. -/
structure Stance where
  /-- A failure is looked at, and no reason to leave. -/
  isTested : Bool := false
  /-- Nothing follows in this process. -/
  isLast : Bool := false
  deriving Inhabited

/-- Carries out a command, whose status is that of the shell afterwards. -/
abbrev Run := Stance → Command → Acts Unit

namespace Lines

/-- The start of reading a text. -/
def start (text : Text) : Reading :=
  let text := text.filter (· != '\x00')
  { rest := text, left := text.length }

/-- Reads with what the shell knows. -/
def around (s : State) (reading : Reading) : Reading :=
  { reading with aliases := s.aliases, nextDocument := s.nextDocument, documents := [] }

/-- Keeps what has been read besides commands. -/
def keep (reading : Reading) (s : State) : State :=
  { s with
    documents := reading.documents ++ s.documents, nextDocument := reading.nextDocument
    lineRead := reading.line }

def refuse {α : Type} (fault : Fault) : Acts α := do
  modify fun s => { s with line := fault.line }
  Acts.fail ("Syntax error: ".toList ++ fault.text.toList)

/-- Shows the text that has been read, if the shell is told to. -/
def show_ (before after : Reading) : Acts Unit := do
  if (← get).has .verbose then
    let _ ← Acts.write 2 (before.rest.take (before.left - after.left))

/-- Carries out the commands that are left, in at most so many lists; `shows` tells whether they come
from a file.  Gives the status of the last command. -/
def runRest (run : Run) (stance : Stance) (shows : Bool) : Nat → Nat → Reading → Acts Nat
  | 0, status, _ => pure status
  | count + 1, status, reading => do
    let before := around (← get) reading
    match readLine.run before with
    | .error fault => do
      if shows then show_ before { before with left := 0 }
      refuse fault
    | .ok (listed, after) => do
      modify (keep after)
      if shows then show_ before after
      match listed with
      | .endOfInput => pure status
      | .commands none => runRest run stance shows count status after
      | .commands (some command) => do
        let isEnd := after.isPushedBack && after.token == .endOfInput
        run { stance with isLast := stance.isLast && isEnd } command
        runRest run stance shows count (← get).status after

/-- Carries out the commands of a text; gives the status of the last, which is zero if there is
none. -/
def runText (run : Run) (stance : Stance) (shows : Bool) (text : Text) : Acts Nat := do
  let outer := (← get).lineRead
  let reading := start text
  let status ← runRest run stance shows (reading.left + 2) 0 reading
  modify fun s => { s with lineRead := outer }
  pure status

end Lines

end JobShell.Script
