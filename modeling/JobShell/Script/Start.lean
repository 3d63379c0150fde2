import JobShell.Script.Evaluation

/-!
Starting the system shell.

It carries out a text, a file or its standard input.  The variables of its environment become its
own, as far as their names can be those of variables.
-/

namespace JobShell.Script.Start

open Machine Toolbox

/-! ### Variables -/

/-- Variables that are there from the start. -/
def usual : List (Text × Variable) :=
  [("PATH", State.usualPath), ("PS1", "# ".toList), ("PS2", "> ".toList),
   ("PS4", "+ ".toList)].map fun (name, value) => (name.toList, { value := some value })

/-- Takes over a variable of the environment. -/
def inherit_ (s : State) (entry : String × Bytes) : State :=
  let name := Text.ofString entry.1
  if Text.isName name then
    s.put name { value := some (Bytes.toLatin entry.2), isExported := true }
  else s

/-- Gives a variable the value that it starts with, whatever the environment says. -/
def reset (name : String) (value : Text) (s : State) : State :=
  s.put name.toList { (s.binding? name.toList).getD {} with value := some value }

/-- The shell before it has looked at its arguments. -/
def first (env : Environment) (number parent : Nat) : State :=
  let s : State := { name := "sh".toList, number, parent, bindings := usual }
  let s := env.entries.foldl inherit_ s
  reset "PPID" (Text.decimal parent) (reset "OPTIND" ['1'] (reset "IFS" State.usualSeparators s))

/-- Whether two paths lead to the same place. -/
def isSame (left right : Text) : Acts Bool := do
  match ← Acts.ask (.inspect (path left) true), ← Acts.ask (.inspect (path right) true) with
  | .ok a, .ok b => pure (a.node == b.node)
  | _, _ => pure false

/-- Finds out the working directory; what the environment says of it is believed if it is right. -/
def locate : Acts Unit := do
  match (← get).valueOf? "PWD".toList with
  | some way =>
    if way.head? = some '/' && (← isSame way ['.']) then Directory.remember (some way) false
    else Directory.remember none false
  | none => Directory.remember none false

/-! ### Arguments -/

/-- What the shell has been called for. -/
structure Task where
  hasText : Bool := false
  operands : List Text := []

/-- Reads the letters in one word; gives whether one of them announces a text, and the words that are
left. -/
def letters (on : Bool) : Text → List Text → Acts (Bool × List Text)
  | [], rest => pure (false, rest)
  | 'c' :: more, rest => do
    let (_, rest) ← letters on more rest
    pure (true, rest)
  | 'l' :: more, rest => letters on more rest
  | 'o' :: more, [] => do
    let _ ← Acts.write 1 (Variables.listSwitches (!on) (← get))
    letters on more []
  | 'o' :: more, name :: rest => do
    match Variables.switchNamed? name with
    | some switch => modify fun s => s.set switch on
    | none => Variables.illegal 'o' name
    letters on more rest
  | letter :: more, rest => do
    match Variables.switchOf? letter with
    | some switch => modify fun s => s.set switch on
    | none => Variables.illegal letter []
    letters on more rest

def options : Nat → Task → List Text → Acts Task
  | 0, task, words => pure { task with operands := words }
  | fuel + 1, task, words =>
    match words with
    | ['-'] :: rest | ['-', '-'] :: rest => pure { task with operands := rest }
    | (sign :: more) :: rest =>
      if sign == '-' || sign == '+' then do
        let (hasText, rest) ← letters (sign == '-') more rest
        options fuel { task with hasText := task.hasText || hasText } rest
      else pure { task with operands := words }
    | words => pure { task with operands := words }

/-! ### Work -/

def run : Run := Run.toDepth Run.depth

/-- Carries out commands, unless they return. -/
def perform (stance : Stance) (shows : Bool) (text : Text) : Acts Unit := do
  match ← Acts.caught (Lines.runText run stance shows text) with
  | .ok _ | .error (.function _) | .error (.loops _ _) => pure ()
  | .error why => throw why

def input : Nat := 0

/-- Carries out what the standard input says. -/
def performInput : Acts Unit := do
  perform {} true (Bytes.toLatin (← Child.readAll input Child.manyPortions []))

/-- Carries out what the shell has been called for. -/
def begin_ (call : Call) : Acts Unit := do
  locate
  modify fun s => { s with name := call.name }
  let task ← options (call.arguments.length + 1) {} call.arguments
  Acts.arrange Trap.interrupt
  let readsInput := (← get).has .standardInput
  match task.hasText, task.operands with
  | true, [] => Acts.failWith "-c requires an argument"
  | true, text :: rest => do
    modify fun s =>
      { s with name := rest.head?.getD s.name, parameters := rest.drop 1, line := 1 }
    perform { isLast := !readsInput } false text
    if readsInput then performInput
  | false, [] => do
    modify fun s => s.set .standardInput true
    performInput
  | false, operands =>
    if readsInput then do
      modify fun s => { s with parameters := operands }
      performInput
    else do
      let name := operands.head?.getD []
      let text ← Simple.contentOf name
      modify fun s => { s with name, parameters := operands.drop 1 }
      perform {} true text

/-- The whole work of the shell. -/
def doing (call : Call) : Doing Nat := do
  let (number, parent) ← Doing.ask .identity
  let (_, s) ← (Child.whole run (begin_ call)).run (first call.env number parent)
  pure s.status

end JobShell.Script.Start
