import JobShell.Machine.Request
import JobShell.Script.Arithmetic
import JobShell.Script.Source
import JobShell.Toolbox.Call

/-!
The system shell while it runs: what it remembers, and how its work can be broken off.

`Acts` is a part of its work.  It may ask the machine, it has the state of the shell at hand, and it
may end early: because the shell leaves, because of an error, or because a loop or a function is
left.
-/

namespace JobShell.Script

open Machine Toolbox

structure Variable where
  /-- A variable that is known may have no value. -/
  value : Option Text := none
  isExported : Bool := false
  isFixed : Bool := false
  deriving Inhabited

/-- What can be switched on and off. -/
inductive Switch
  | exitOnFailure | noNames | ignoreEnd | interactive | monitor | noWork | standardInput | trace
  | verbose | visual | lineEditor | noOverwriting | exportAll | notify | refuseUnset | privileged
  | noLog | debug
  deriving DecidableEq, Repr

/-- The switches with their letters and names, in the order in which they are listed. -/
def Switch.all : List (Switch × Option Char × String) :=
  [(.exitOnFailure, some 'e', "errexit"), (.noNames, some 'f', "noglob"),
   (.ignoreEnd, some 'I', "ignoreeof"), (.interactive, some 'i', "interactive"),
   (.monitor, some 'm', "monitor"), (.noWork, some 'n', "noexec"),
   (.standardInput, some 's', "stdin"), (.trace, some 'x', "xtrace"),
   (.verbose, some 'v', "verbose"), (.visual, some 'V', "vi"), (.lineEditor, some 'E', "emacs"),
   (.noOverwriting, some 'C', "noclobber"), (.exportAll, some 'a', "allexport"),
   (.notify, some 'b', "notify"), (.refuseUnset, some 'u', "nounset"),
   (.privileged, some 'p', "privileged"), (.noLog, none, "nolog"), (.debug, none, "debug")]

/-- A job of the shell: its processes with their ends, as far as they are known. -/
structure Job where
  number : Nat
  processes : List (Nat × Option End)
  /-- Somebody has been told how it ended. -/
  isTold : Bool := false
  deriving Inhabited

/-- What is put back when a command ends. -/
structure Locals where
  saved : List (Text × Option Variable) := []
  switches : Option (List Switch) := none

structure State where
  /-- The name under which messages are written. -/
  name : Text
  parameters : List Text := []
  bindings : List (Text × Variable) := []
  functions : List (Text × Command) := []
  aliases : List (Text × Text) := []
  switches : List Switch := []
  /-- The status of the last command. -/
  status : Nat := 0
  /-- The status of the last substitution in the present command. -/
  substitutionStatus : Nat := 0
  backgroundNumber : Option Nat := none
  /-- The numbers of the shell that was started first and of its parent. -/
  number : Nat := 0
  parent : Nat := 0
  /-- The line that messages name. -/
  line : Nat := 0
  /-- The line up to which commands have been read. -/
  lineRead : Nat := 0
  /-- The command of the shell's own that is being carried out. -/
  command : Option Text := none
  /-- What is done on signals; on signal zero when the shell leaves.  An empty text ignores. -/
  traps : List (Nat × Text) := []
  /-- The status that is kept while a trap is carried out. -/
  savedStatus : Option Nat := none
  /-- Signals that have come and for which nothing has been done yet. -/
  pending : List Nat := []
  /-- Signals for which the shell has arranged something. -/
  managed : List Nat := []
  /-- Signals that were ignored from the start stay ignored. -/
  deaf : List Nat := []
  /-- Names of commands with the files that they were found in; a doubtful one is looked for anew. -/
  hashed : List (Text × Text × Bool) := []
  jobs : List Job := []
  documents : List (Nat × Word) := []
  nextDocument : Nat := 0
  /-- How many loops are around the present command. -/
  loops : Nat := 0
  /-- How many functions and files are around it. -/
  depth : Nat := 0
  /-- What has been made local, for each command around. -/
  locals : List Locals := []
  /-- The working directory as the way that led to it. -/
  directory : Option Text := none
  physical : Option Text := none
  /-- A line of the trace is being made. -/
  isTracing : Bool := false
  /-- Where the reading of options stands: the word, and the character in the word before it. -/
  optionIndex : Nat := 1
  optionOffset : Option Nat := none
  /-- Whether this is a part of the shell that works beside the rest. -/
  isChild : Bool := false
  deriving Inhabited

/-- Why work is broken off. -/
inductive Break
  /-- The shell leaves with its present status. -/
  | leave
  /-- An error has been told of. -/
  | error
  /-- So many loops are left, the last of which may go on. -/
  | loops (count : Nat) (again : Bool)
  /-- A function or a file is left, perhaps with a status that was asked for. -/
  | function (hasStatus : Bool)

abbrev Acts (α : Type) := ExceptT Break (StateT State Doing) α

namespace Acts

variable {α : Type}

/-- Something asked of the machine. -/
def ask (request : Request) : Acts request.Answer :=
  ExceptT.lift (StateT.lift (Doing.ask request))

/-- Work that ends with the process. -/
def lift (doing : Doing α) : Acts α := ExceptT.lift (StateT.lift doing)

/-- Work that is not broken off: the reason is given instead. -/
def caught (work : Acts α) : Acts (Except Break α) :=
  ExceptT.lift work.run

/-- Goes on with work after other work, however that ended. -/
def finally_ (work : Acts α) (last : Acts Unit) : Acts α := do
  match ← caught work with
  | .ok a => do
    last
    pure a
  | .error why => do
    last
    throw why

def write (descriptor : Nat) (text : Text) : Acts (Except Errno Unit) :=
  lift (Toolbox.write descriptor text)

/-- A message of the shell, with its name, the line and the present command in front. -/
def warn (text : Text) : Acts Unit := do
  let s ← get
  let command := match s.command with
    | some name => name ++ ": ".toList
    | none => []
  let _ ← write 2
    (s.name ++ ": ".toList ++ Text.decimal s.line ++ ": ".toList ++ command ++ text ++ ['\n'])

/-- A message with which the present work is broken off. -/
def fail (text : Text) : Acts α := do
  modify fun s => { s with status := 2 }
  warn text
  throw .error

def failWith (text : String) : Acts α := fail text.toList

def setStatus (status : Nat) : Acts Unit := modify fun s => { s with status }

end Acts

namespace State

def has (s : State) (switch : Switch) : Bool := s.switches.contains switch

def set (s : State) (switch : Switch) (on : Bool) : State :=
  let others := s.switches.filter (· != switch)
  { s with switches := if on then switch :: others else others }

def binding? (s : State) (name : Text) : Option Variable := s.bindings.lookup name

def valueOf? (s : State) (name : Text) : Option Text := (s.binding? name).bind (·.value)

def isFixed (s : State) (name : Text) : Bool := (s.binding? name).any (·.isFixed)

/-- Puts a variable in its place, or behind the others. -/
def put (s : State) (name : Text) (v : Variable) : State :=
  if (s.binding? name).isSome then
    { s with bindings := s.bindings.map fun p => if p.1 == name then (name, v) else p }
  else { s with bindings := s.bindings ++ [(name, v)] }

def drop (s : State) (name : Text) : State :=
  { s with bindings := s.bindings.filter (·.1 != name) }

/-- The variables that programs are given. -/
def environment (s : State) : Environment :=
  { entries := s.bindings.filterMap fun (name, v) =>
      match v.value with
      | some value =>
        if v.isExported then some (String.ofList name, Bytes.ofLatin value) else none
      | none => none }

/-- The characters that separate fields if the shell is not told otherwise. -/
def usualSeparators : Text := [' ', '\t', '\n']

def separators (s : State) : Text := (s.valueOf? "IFS".toList).getD usualSeparators

/-- Where programs are looked for if no variable says it. -/
def usualPath : Text := "/usr/local/sbin:/usr/local/bin:/usr/sbin:/usr/bin:/sbin:/bin".toList

def searchPath (s : State) : Text := (s.valueOf? "PATH".toList).getD []

/-- The letters of the switches that are on. -/
def switchLetters (s : State) : Text :=
  Switch.all.reverse.filterMap fun (switch, letter, _) => if s.has switch then letter else none

end State

namespace Acts

def illegalNumber (text : Text) : Acts α := fail ("Illegal number: ".toList ++ text)

/-- The integer that a text has to be. -/
def integer (text : Text) : Acts Int :=
  match integer? text with
  | some n => if -9223372036854775808 ≤ n ∧ n ≤ 9223372036854775807 then pure n
    else illegalNumber text
  | none => illegalNumber text

/-- The number that a text has to be. -/
def number (text : Text) : Acts Nat := do
  let n ← integer text
  if 0 ≤ n ∧ n ≤ 2147483647 then pure n.toNat else illegalNumber text

/-- What happens when certain variables change. -/
def noticed (name value : Text) : Acts Unit := do
  if name = "OPTIND".toList then
    let n ← number value
    modify fun s => { s with optionIndex := if n = 0 then 1 else n, optionOffset := none }
  else if name = "PATH".toList then modify fun s => { s with hashed := [] }

def readOnly (name : Text) : Acts α := fail (name ++ ": is read only".toList)

/-- Gives a variable a value without anything else that its name may ask for. -/
def putVariable (name value : Text) (exported : Bool) : Acts Unit := do
  let s ← get
  let old := (s.binding? name).getD {}
  if old.isFixed then readOnly name
  let isExported := old.isExported || exported || s.has .exportAll
  modify fun s => s.put name { old with value := some value, isExported }

/-- Gives a variable a value. -/
def setVariable (name value : Text) (exported : Bool := false) : Acts Unit := do
  putVariable name value exported
  noticed name value

/-- Requires a name that a variable may have. -/
def checkName (name : Text) : Acts Unit := do
  if !Text.isName name then fail (name ++ ": bad variable name".toList)

/-- The name in a word that may have an equals sign and more behind it. -/
def nameIn (word : Text) : Text := word.takeWhile (· != '=')

/-- Gives the variable that a word names a value. -/
def assign (word value : Text) : Acts Unit := do
  let name := nameIn word
  checkName name
  setVariable name value

/-- Forgets the variable that a word names.  The place of the next option needs a number. -/
def unsetVariable (word : Text) : Acts Unit := do
  let name := nameIn word
  checkName name
  if (← get).isFixed name then readOnly name
  noticed name []
  modify fun s => s.drop name

/-- Remembers how a variable was, for the end of the innermost command that keeps variables. -/
def makeLocal (name : Text) : Acts Unit :=
  modify fun s =>
    match s.locals with
    | frame :: outer =>
      if frame.saved.any (·.1 == name) then s
      else
        let saved := (name, s.binding? name) :: frame.saved
        { s with locals := { frame with saved } :: outer }
    | [] => s

/-- Remembers how the switches were. -/
def makeSwitchesLocal : Acts Unit :=
  modify fun s =>
    match s.locals with
    | frame :: outer =>
      { s with locals := { frame with switches := some (frame.switches.getD s.switches) } :: outer }
    | [] => s

def restoreVariable (s : State) (old : Text × Option Variable) : State :=
  let s := if old.1 = "PATH".toList then { s with hashed := [] } else s
  match old.2 with
  | some v => s.put old.1 v
  | none => s.drop old.1

/-- Puts variables back, the latest first.  One that is to be forgotten needs a name that it may
have. -/
def putBack : List (Text × Option Variable) → Acts Unit
  | [] => pure ()
  | old :: rest => do
    if old.2.isNone then checkName old.1
    modify fun s => restoreVariable s old
    putBack rest

/-- Puts back what commands made local. -/
def unwind : List Locals → Acts Unit
  | [] => pure ()
  | frame :: rest => do
    modify fun s => { s with locals := s.locals.drop 1 }
    putBack frame.saved
    modify fun s => { s with switches := frame.switches.getD s.switches }
    unwind rest

/-- Carries out work after which the variables that it made local are as they were.  They stay if
the shell is about to leave, unless somebody goes on in spite of an error. -/
def withLocals {α : Type} (work : Acts α) : Acts α := do
  let outer := (← get).locals.length
  modify fun s => { s with locals := {} :: s.locals }
  let close : Acts Unit := do
    let inner := (← get).locals
    unwind (inner.take (inner.length - outer))
  match ← caught work with
  | .ok a => do
    close
    pure a
  | .error .leave => throw .leave
  | .error .error => throw .error
  | .error why => do
    close
    throw why

/-- Makes a child of the shell that does other work; gives its number. -/
def fork (child : Acts Unit) (ending : State → Doing Nat) : Acts Nat := do
  let s ← get
  let work : Doing Nat := do
    let (_, s) ← (child.run).run { s with isChild := true }
    ending s
  lift (Doing.fork work.work)

end Acts

end JobShell.Script
