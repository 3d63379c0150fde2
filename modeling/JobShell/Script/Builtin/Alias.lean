import JobShell.Script.Builtin.Reply

/-!
Names that stand for other text where a command starts.
-/

namespace JobShell.Script.Alias

open Toolbox

/-- Tables keep names in so many rows. -/
def rowCount : Nat := 39

/-- The row of a name. -/
def row (count : Nat) (name : Text) : Nat :=
  let first := (name.head?.map Char.toNat).getD 0
  name.foldl (fun sum c => sum + c.toNat) (16 * first) % 32768 % count

def line (name value : Text) : Text := Reply.line (name ++ '=' :: quoted value)

/-- All names, row by row. -/
def list (s : State) : Text :=
  (List.range rowCount).flatMap fun n =>
    (s.aliases.filter fun a => row rowCount a.1 = n).flatMap fun (name, value) => line name value

def define (name value : Text) (s : State) : State :=
  if (s.aliases.lookup name).isSome then
    { s with aliases := s.aliases.map fun a => if a.1 == name then (name, value) else a }
  else { s with aliases := s.aliases ++ [(name, value)] }

/-- The name and the value of a definition, whose name is not empty. -/
def definition? (word : Text) : Option (Text × Text) :=
  match word with
  | [] => none
  | c :: rest =>
    let more := rest.takeWhile (· != '=')
    if more.length = rest.length then none else some (c :: more, rest.drop (more.length + 1))

def setAll (status : Nat) (shown : Text) : List Text → Acts Reply
  | [] => pure { output := shown, status }
  | word :: rest => do
    match definition? word with
    | some (name, value) => do
      modify (define name value)
      setAll status shown rest
    | none =>
      match (← get).aliases.lookup word with
      | some value => setAll status (shown ++ line word value) rest
      | none => do
        let _ ← Acts.write 2 ("alias: ".toList ++ word ++ " not found\n".toList)
        setAll 1 shown rest

/-- Defines names or shows them. -/
def alias_ (arguments : List Text) : Acts Reply := do
  if arguments.isEmpty then pure { output := list (← get) } else setAll 0 [] arguments

def dropAll (status : Nat) : List Text → Acts Reply
  | [] => pure (.ofStatus status)
  | word :: rest => do
    if ((← get).aliases.lookup word).isSome then do
      modify fun s => { s with aliases := s.aliases.filter (·.1 != word) }
      dropAll status rest
    else do
      let _ ← Acts.write 2 ("unalias: ".toList ++ word ++ " not found\n".toList)
      dropAll 1 rest

/-- Forgets names, or all of them. -/
def unalias (arguments : List Text) : Acts Reply := do
  let flags ← Acts.flags [('a', false)] arguments
  if flags.has 'a' then do
    modify fun s => { s with aliases := [] }
    pure {}
  else dropAll 0 flags.operands

end JobShell.Script.Alias
