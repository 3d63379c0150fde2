import JobShell.Host
import JobShell.Job
import JobShell.Log.Filter
import JobShell.Log.Timestamp
import JobShell.Paint

/-!
The journal: everything that is written while the shell runs, in order.

The shell does its work in `Act`: an action asks the host and adds entries to the journal.  The
host never sees the journal, so what the shell writes cannot change how its children fare.
-/

namespace JobShell

/-- Something written. -/
inductive Entry
  /-- What was shown of a prompt. -/
  | prompt (bytes : Bytes)
  /-- What was written to the shell's output. -/
  | echo (bytes : Bytes)
  | notice (finished : FinishedJob)
  /-- A failure reported by the read loop. -/
  | failure (text : String)
  /-- A message of a built-in. -/
  | message (text : String)
  | log (time : Nat) (record : Log.Record)
  /-- Bytes that a child wrote. -/
  | child (stream : Stream) (bytes : Bytes)
  /-- A signal ended the shell. -/
  | ended (signal : Nat)
  deriving DecidableEq, Repr

def interruptRecord : Log.Record := ⟨.debug, .signals, "interrupt received by shell"⟩

def Entry.ofOutput : Output → Entry
  | .written stream bytes => .child stream bytes
  | .interrupted time => .log time interruptRecord
  | .ended signal => .ended signal

/-- How messages appear. -/
structure Console where
  paint : Paint
  /-- Which log records are shown; none before logging is set up. -/
  filter : Option Log.Filter

namespace Console

/-- The tone of a job notice. -/
def toneOf (finished : FinishedJob) : Tone :=
  if finished.status.success then .success else .warning

/-- What an entry puts on the error stream. -/
def errorBytes (console : Console) : Entry → Bytes
  | .notice finished =>
    Bytes.ofString (console.paint.apply (toneOf finished) finished.notice ++ "\n")
  | .failure text => Bytes.ofString (console.paint.apply .error text ++ "\n")
  | .message text => Bytes.ofString (text ++ "\n")
  | .log time record =>
    if console.filter.any (·.admits record) then
      Bytes.ofString (record.line (Log.timestamp time))
    else []
  | .child .err bytes => bytes
  | _ => []

/-- What the children put on the standard output. -/
def childBytes : Entry → Bytes
  | .child .out bytes => bytes
  | _ => []

def promptBytes : Entry → Bytes
  | .prompt bytes => bytes
  | _ => []

def echoBytes : Entry → Bytes
  | .echo bytes => bytes
  | _ => []

/-- What an entry puts on the standard output of a shell that shows prompts and echo there. -/
def outputBytes (entry : Entry) : Bytes :=
  promptBytes entry ++ echoBytes entry ++ childBytes entry

end Console

/-- What is seen of a journal: once the shell has been ended, only its children add to it. -/
def visible : List Entry → List Entry
  | [] => []
  | .ended signal :: rest =>
    .ended signal :: rest.filter fun
      | .child _ _ => true
      | _ => false
  | entry :: rest => entry :: visible rest

/-- The signal that ended the shell, if one did. -/
def endOf? (journal : List Entry) : Option Nat :=
  journal.findSome? fun
    | .ended signal => some signal
    | _ => none

/-- An action of the shell on a host. -/
def Act (σ α : Type) : Type := σ → Outcome Entry σ α

namespace Act

variable {σ α β : Type}

protected def pure (a : α) : Act σ α := fun host => ⟨a, [], host⟩

protected def bind (x : Act σ α) (f : α → Act σ β) : Act σ β := fun host =>
  let first := x host
  let second := f first.value first.state
  ⟨second.value, first.written ++ second.written, second.state⟩

instance : Monad (Act σ) where
  pure := Act.pure
  bind := Act.bind

@[simp] theorem pure_apply (a : α) (host : σ) : (pure a : Act σ α) host = ⟨a, [], host⟩ := rfl

@[simp] theorem bind_value (x : Act σ α) (f : α → Act σ β) (host : σ) :
    ((x >>= f) host).value = (f (x host).value (x host).state).value := rfl

@[simp] theorem bind_written (x : Act σ α) (f : α → Act σ β) (host : σ) :
    ((x >>= f) host).written = (x host).written ++ (f (x host).value (x host).state).written := rfl

@[simp] theorem bind_state (x : Act σ α) (f : α → Act σ β) (host : σ) :
    ((x >>= f) host).state = (f (x host).value (x host).state).state := rfl

instance : LawfulMonad (Act σ) := LawfulMonad.mk' _
  (fun x => by
    funext host
    show Outcome.mk _ ((x host).written ++ []) _ = x host
    rw [List.append_nil]
    rfl)
  (fun a f => rfl)
  (fun x f g => by
    funext host
    show Outcome.mk _ _ _ = Outcome.mk _ _ _
    simp [Act.bind, bind])

/-- Adds one entry. -/
def write (entry : Entry) : Act σ Unit := fun host => ⟨(), [entry], host⟩

/-- Asks the host; what happens meanwhile goes into the journal. -/
def ask (question : σ → Outcome Output σ α) : Act σ α := fun host =>
  let outcome := question host
  ⟨outcome.value, outcome.written.map .ofOutput, outcome.state⟩

/-- Reads something off the host without asking for a change. -/
def view (f : σ → α) : Act σ α := fun host => ⟨f host, [], host⟩

def log [Host σ] (level : Log.Level) (source : Log.Source) (message : String) : Act σ Unit :=
  fun host => ⟨(), [.log (Host.now host) ⟨level, source, message⟩], host⟩

def debug [Host σ] (source : Log.Source) (message : String) : Act σ Unit :=
  log .debug source message

def warn [Host σ] (source : Log.Source) (message : String) : Act σ Unit :=
  log .warn source message

end Act

end JobShell
