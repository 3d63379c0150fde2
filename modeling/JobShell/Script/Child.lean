import JobShell.Script.Job
import JobShell.Script.Lines
import JobShell.Script.Lookup
import JobShell.Script.Trap

/-!
Parts of the shell that work beside it, each in a process of its own.

Such a part has everything that the shell has but its jobs and the commands set for signals.  When it
is done it ends like a shell: the commands set for the end are carried out, and the status is the
one from before them unless they say otherwise.
-/

namespace JobShell.Script

open Machine Toolbox

namespace Child

/-- Carries out what is set for the end of the shell. -/
def conclude (run : Run) : Acts Unit := do
  modify fun s => { s with savedStatus := some s.status }
  match (← get).traps.lookup Trap.atEnd with
  | none => pure ()
  | some commands => do
    Acts.setTrap Trap.atEnd none
    let goBack := modify fun s => { s with status := s.savedStatus.getD s.status }
    match ← Acts.caught (Lines.runText run {} false commands) with
    | .ok _ | .error (.loops _ _) | .error (.function _) => goBack
    | .error _ => pure ()

/-- Carries out work to the end of the process. -/
def whole (run : Run) (work : Acts Unit) : Acts Unit := do
  let _ ← Acts.caught work
  conclude run

/-- What a part of the shell forgets. -/
def forget : Acts Unit := do
  Acts.forgetTraps
  modify fun s => { s with jobs := [] }

/-- Starts a part of the shell; gives its number. -/
def start (run : Run) (work : Acts Unit) : Acts Nat :=
  Acts.fork (do
    forget
    whole run work) fun s => pure s.status

/-- Signals that do not reach what is not waited for. -/
def unheard : List Nat := [Signal.int, .quit].map Signal.number

def nothing : Bytes := Bytes.ofString "/dev/null"

/-- Has the standard input empty. -/
def closeInput : Acts Unit := do
  Acts.ask (.close 0)
  match ← Acts.ask (.openFile nothing { reads := true }) with
  | .ok 0 => pure ()
  | .ok descriptor => do
    let _ ← Acts.ask (.copyTo descriptor 0)
    Acts.ask (.close descriptor)
  | .error e =>
    Acts.fail ("Can't open ".toList ++ Bytes.toLatin nothing ++ ": ".toList ++ e.wording.toList)

/-- Has work done that is not waited for. -/
def unwatched (readsNothing : Bool) (work : Acts Unit) : Acts Unit := do
  unheard.forM Acts.deafen
  if readsNothing then closeInput
  work

/-- Notes what has been started in the background. -/
def noteBackground (processes : List Nat) : Acts Unit := do
  let _ ← Acts.addJob processes
  modify fun s => { s with backgroundNumber := processes.getLast? }

/-- Has work done by a part of the shell and waits for it. -/
def wait (processes : List Nat) : Acts Unit := do
  let number ← Acts.addJob processes
  Acts.setStatus (← Acts.finishJob number)

/-- Goes over to a program in a process of its own, and waits for its end. -/
def program (words : List Text) (path : Option Text) (place : Nat) : Acts Unit := do
  let process ← Acts.fork (do
    let _ ← Acts.caught (Lookup.become words path place)) fun s => pure s.status
  wait [process]

/-! ### Pipelines -/

/-- Puts one descriptor in the place of another. -/
def move (descriptor target : Nat) : Acts Unit := do
  if descriptor != target then
    let _ ← Acts.ask (.copyTo descriptor target)
    Acts.ask (.close descriptor)

/-- A program is looked for before a process is made for it, so that its place is remembered. -/
def lookAhead : Command → Acts Unit
  | .simple _ _ (word :: _) _ =>
    match Word.plain? word with
    | some name => do
      if !name.contains '/' then
        let _ ← Lookup.find name true false none
    | none => pure ()
  | _ => pure ()

/-- Starts the commands of a pipeline, each of which reads what the one before writes; gives their
numbers. -/
def pipeline (run : Run) (stance : Stance) (isBackground : Bool) :
    Bool → Option Nat → List Command → Acts (List Nat)
  | _, _, [] => pure []
  | isFirst, input, command :: rest => do
    lookAhead command
    let pipe ← if rest.isEmpty then pure none else do pure (some (← Acts.ask .pipe))
    let work : Acts Unit := do
      match pipe with
      | some (reads, _) => Acts.ask (.close reads)
      | none => pure ()
      match input with
      | some descriptor => move descriptor 0
      | none => pure ()
      match pipe with
      | some (_, writes) => move writes 1
      | none => pure ()
      run { stance with isLast := true } command
    let process ← start run (if isBackground then unwatched isFirst work else work)
    match input with
    | some descriptor => Acts.ask (.close descriptor)
    | none => pure ()
    match pipe with
    | some (_, writes) => Acts.ask (.close writes)
    | none => pure ()
    pure (process :: (← pipeline run stance isBackground false (pipe.map (·.1)) rest))

/-! ### The output of commands -/

/-- Reads everything that comes through a descriptor. -/
def readAll (descriptor : Nat) : Nat → List Bytes → Acts Bytes
  | 0, portions => pure portions.reverse.flatten
  | fuel + 1, portions => do
    match ← Acts.ask (.read descriptor 65536) with
    | .error e =>
      if e = Errno.interrupted then do
        let _ ← Acts.poll
        readAll descriptor fuel portions
      else pure portions.reverse.flatten
    | .ok [] => pure portions.reverse.flatten
    | .ok bytes => readAll descriptor fuel (bytes :: portions)

/-- More portions than anything is read in. -/
def manyPortions : Nat := 1000000000

/-- A text without null characters and without the line ends behind it. -/
def trimmed (bytes : Bytes) : Text :=
  let text := Bytes.toLatin (bytes.filter (· != 0))
  (text.reverse.dropWhile (· == '\n')).reverse

/-- The output of a command. -/
def output (run : Run) : Expansion.Substitute
  | none => pure []
  | some body => do
    let (reads, writes) ← Acts.ask .pipe
    let process ← start run do
      Acts.ask (.close reads)
      move writes 1
      run { isLast := true } body
    Acts.ask (.close writes)
    let bytes ← readAll reads manyPortions []
    Acts.ask (.close reads)
    let number ← Acts.addJob [process]
    let status ← Acts.finishJob number
    modify fun s => { s with substitutionStatus := status }
    pure (trimmed bytes)

end Child

end JobShell.Script
