import JobShell.Script.Builtin.Reply

/-!
Variables, parameters and switches of the shell.
-/

namespace JobShell.Script.Variables

open Toolbox

/-- Which variables a list shows. -/
inductive Shown
  | set | exported | fixed
  deriving DecidableEq

def isShown (shown : Shown) (v : Variable) : Bool :=
  match shown with
  | .set => v.value.isSome
  | .exported => v.isExported
  | .fixed => v.isFixed

/-- Variables in the order of their names, each as a command that sets it. -/
def list (front : Text) (shown : Shown) (s : State) : Text :=
  let sorted := (s.bindings.filter fun b => isShown shown b.2).mergeSort fun a b =>
    String.ofList a.1 ≤ String.ofList b.1
  sorted.flatMap fun (name, v) =>
    let value := match v.value with
      | some value => '=' :: quoted value
      | none => []
    Reply.line ((if front.isEmpty then [] else front ++ [' ']) ++ name ++ value)

/-- A word as a name and the value behind an equals sign. -/
def parts (word : Text) : Text × Option Text :=
  let name := Acts.nameIn word
  (name, if name.length = word.length then none else some (word.drop (name.length + 1)))

def mark (shown : Shown) (name : Text) : Acts Unit :=
  modify fun s =>
    let v := (s.binding? name).getD {}
    s.put name (if shown = .fixed then { v with isFixed := true } else { v with isExported := true })

def markAll (shown : Shown) : List Text → Acts Unit
  | [] => pure ()
  | word :: rest => do
    let (name, value) := parts word
    Acts.checkName name
    match value with
    | some value => Acts.setVariable name value
    | none => pure ()
    mark shown name
    markAll shown rest

/-- Exports variables or fixes them, or lists those that are. -/
def declare (shown : Shown) (arguments : List Text) : Acts Reply := do
  let flags ← Acts.flags [('p', false)] arguments
  if flags.has 'p' || flags.operands.isEmpty then
    let front := if shown = .fixed then "readonly" else "export"
    pure { output := list front.toList shown (← get) }
  else do
    markAll shown flags.operands
    pure {}

/-- Makes variables local; with a value behind it, any name will do. -/
def makeAllLocal : List Text → Acts Unit
  | [] => pure ()
  | word :: rest => do
    if word = ['-'] then Acts.makeSwitchesLocal
    else
      match parts word with
      | (name, some value) => do
        Acts.makeLocal name
        Acts.setVariable name value
      | (name, none) => do
        Acts.checkName name
        Acts.makeLocal name
    makeAllLocal rest

/-- Makes variables local to the present function; a dash stands for the switches. -/
def local_ (arguments : List Text) : Acts Reply := do
  if (← get).locals.isEmpty then Acts.failWith "not in a function"
  makeAllLocal arguments
  pure {}

def dropFunction (name : Text) : Acts Unit :=
  modify fun s => { s with functions := s.functions.filter (·.1 != name) }

def unsetAll (isFunction : Bool) : List Text → Acts Unit
  | [] => pure ()
  | name :: rest => do
    if isFunction then dropFunction name else Acts.unsetVariable name
    unsetAll isFunction rest

/-- Forgets variables or functions. -/
def unset (arguments : List Text) : Acts Reply := do
  let flags ← Acts.flags [('v', false), ('f', false)] arguments
  unsetAll ((flags.given.getLast?.map (·.1)) == some 'f') flags.operands
  pure {}

/-- Drops parameters from the front. -/
def shift (arguments : List Text) : Acts Reply := do
  let count ← match arguments with
    | [] => pure 1
    | word :: _ => Acts.number word
  let s ← get
  if s.parameters.length < count then Acts.failWith "can't shift that many"
  set { s with parameters := s.parameters.drop count, optionIndex := 1, optionOffset := none }
  pure {}

/-! ### Switches -/

/-- The longest name of a switch with a blank behind. -/
def nameWidth : Nat := 16

/-- The switches as a table, or as commands that set them. -/
def listSwitches (asCommands : Bool) (s : State) : Text :=
  let table := Switch.all.flatMap fun (switch, _, name) =>
    let isOn := s.has switch
    if asCommands then
      Reply.line ((if isOn then "set -o ".toList else "set +o ".toList) ++ name.toList)
    else
      let blanks := List.replicate (nameWidth - name.length) ' '
      Reply.line (name.toList ++ blanks ++ (if isOn then "on" else "off").toList)
  if asCommands then table else Reply.line "Current option settings".toList ++ table

/-- Words that set switches have been read so far. -/
structure Settings where
  output : Text := []
  /-- What is left, which sets the parameters; nothing if they stay. -/
  parameters : Option (List Text) := none

def illegal {α : Type} (letter : Char) (name : Text) : Acts α :=
  Acts.fail ("Illegal option -".toList ++ letter :: (if name.isEmpty then [] else ' ' :: name))

/-- Turns a switch; control of jobs needs a terminal. -/
def turn (switch : Switch) (on : Bool) : Acts Unit := do
  if switch = .monitor && on then
    Acts.warn "can't access tty; job control turned off".toList
  else modify fun s => s.set switch on

def switchOf? (letter : Char) : Option Switch :=
  (Switch.all.find? fun entry => entry.2.1 == some letter).map (·.1)

def switchNamed? (name : Text) : Option Switch :=
  (Switch.all.find? fun entry => entry.2.2.toList == name).map (·.1)

/-- Turns the switches of one word.  A letter `o` stands for the name in the next word, which may be
missing.  Gives what is to be shown, and whether the next word was taken. -/
def turnLetters (on : Bool) : Text → List Text → Acts (Text × List Text)
  | [], rest => pure ([], rest)
  | 'o' :: letters, [] => do
    let shown := listSwitches (!on) (← get)
    let (more, rest) ← turnLetters on letters []
    pure (shown ++ more, rest)
  | 'o' :: letters, name :: rest => do
    match switchNamed? name with
    | some switch => turn switch on
    | none => illegal 'o' name
    turnLetters on letters rest
  | letter :: letters, rest => do
    match switchOf? letter with
    | some switch => turn switch on
    | none => illegal letter []
    turnLetters on letters rest

/-- Turns switches as words say. -/
def turnAll : Nat → List Text → Acts Settings
  | 0, _ => pure {}
  | fuel + 1, words =>
    match words with
    | [] => pure {}
    | ['-', '-'] :: rest => pure { parameters := some rest }
    | ['-'] :: rest => do
      modify fun s => (s.set .trace false).set .verbose false
      pure { parameters := if rest.isEmpty then none else some rest }
    | (sign :: letters) :: rest =>
      if sign == '-' || sign == '+' then do
        let (shown, rest) ← turnLetters (sign == '-') letters rest
        let later ← turnAll fuel rest
        pure { later with output := shown ++ later.output }
      else pure { parameters := some words }
    | words => pure { parameters := some words }

/-- Sets switches and parameters, or lists the variables. -/
def set_ (arguments : List Text) : Acts Reply := do
  if arguments.isEmpty then pure { output := list [] .set (← get) }
  else do
    let settings ← turnAll (arguments.length + 1) arguments
    match settings.parameters with
    | some parameters => modify fun s => { s with parameters, optionIndex := 1, optionOffset := none }
    | none => pure ()
    pure { output := settings.output }

end JobShell.Script.Variables
