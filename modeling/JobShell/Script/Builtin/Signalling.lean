import JobShell.Script.Builtin.Reply
import JobShell.Script.Trap

/-!
Setting commands for signals, and sending signals.
-/

namespace JobShell.Script.Signalling

open Machine Toolbox

/-- The commands that are set, in the order of their signals. -/
def listTraps (s : State) : Text :=
  (List.range Trap.signalCount).flatMap fun n =>
    match s.traps.lookup n with
    | some commands =>
      "trap -- ".toList ++ quoted commands ++ ' ' :: Trap.name n ++ ['\n']
    | none => []

/-- Sets commands for signals in turn, up to one that does not exist. -/
def setAll (commands : Option Text) : List Text → Acts Reply
  | [] => pure {}
  | word :: rest => do
    match Trap.number? 0 word with
    | none => do
      let _ ← Acts.write 2 ("trap: ".toList ++ word ++ ": bad trap\n".toList)
      pure (.ofStatus 1)
    | some signal => do
      Acts.setTrap signal commands
      setAll commands rest

/-- Sets commands for signals; a lone word or a number in the first place stands for a signal, and a
dash for no commands. -/
def trap (arguments : List Text) : Acts Reply := do
  match ← Acts.operands arguments with
  | [] => do pure { output := listTraps (← get) }
  | [word] => setAll none [word]
  | first :: rest =>
    if (Text.number? first).any (· < Trap.signalCount) then setAll none (first :: rest)
    else setAll (if first = ['-'] then none else some first) rest

/-! ### Sending -/

def usage : String :=
  "Usage: kill [-s sigspec | -signum | -sigspec] [pid | job]... or\nkill -l [exitstatus]"

/-- The names of all signals. -/
def allNames : Text :=
  Reply.line ['0'] ++ (List.range (Trap.signalCount - 1)).flatMap fun n => Reply.line (Trap.name (n + 1))

/-- The name of a signal, or of the one that a status stands for. -/
def showName (word : Text) : Acts Reply := do
  let n ← Acts.number word
  let n := if 128 < n then n - 128 else n
  if 0 < n ∧ n < Trap.signalCount then pure { output := Reply.line (Trap.name n) }
  else Acts.fail ("invalid signal number or exit status: ".toList ++ word)

/-- The process that a word stands for; a job stands for the group of its first process. -/
def target (word : Text) : Acts Int := do
  match word with
  | '%' :: _ => do
    let job ← Acts.namedJob word
    pure (-(((job.processes.head?.map (·.1)).getD 0 : Nat) : Int))
  | '-' :: digits => do pure (-((← Acts.number digits : Nat) : Int))
  | digits => do pure ((← Acts.number digits : Nat) : Int)

def sendAll (signal : Nat) (status : Nat) : List Text → Acts Reply
  | [] => pure (.ofStatus status)
  | word :: rest => do
    match ← Acts.ask (.signal (← target word) signal) with
    | .ok () => sendAll signal status rest
    | .error e => do
      Acts.warn (e.wording.toList ++ ['\n'])
      sendAll signal 1 rest

/-- The signals that options ask for, of which the last counts. -/
def askedFor : List (Char × Text) → Option Nat → Acts (Option Nat)
  | [], signal => pure signal
  | ('s', word) :: rest, _ => do
    match Trap.number? 1 word with
    | some signal => askedFor rest (some signal)
    | none => Acts.fail ("invalid signal number or name: ".toList ++ word)
  | _ :: rest, signal => askedFor rest signal

/-- Sends a signal to processes, or tells the names of signals. -/
def kill (arguments : List Text) : Acts Reply := do
  let send := fun (signal : Nat) (words : List Text) =>
    if words.isEmpty then Acts.failWith usage else sendAll signal 0 words
  match arguments with
  | [] => Acts.failWith usage
  | ('-' :: name) :: rest =>
    match Trap.number? 1 name with
    | some signal => send signal rest
    | none => do
      let flags ← Acts.flags [('l', false), ('s', true)] arguments
      let asked ← askedFor flags.given none
      if flags.has 'l' then
        match asked, flags.operands with
        | some _, _ :: _ => Acts.failWith usage
        | _, [] => pure { output := allNames }
        | none, word :: _ => showName word
      else send (asked.getD (Signal.number .term)) flags.operands
  | words => send (Signal.number .term) words

end JobShell.Script.Signalling
