import JobShell.Argv
import JobShell.Text.Bytes

/-!
What a child takes over.

All that a child needs is laid down before it is started: the words of its command, each with a zero
byte behind it, a pointer to each of them with a null pointer behind the last, and what the child
says if its program is not found.  The system follows the pointers up to the null pointer, and a
string goes up to its zero byte.
-/

namespace JobShell

structure LaunchPlan where
  strings : List Bytes
  /-- The places of strings; `none` is the null pointer. -/
  pointers : List (Option Nat)
  notFound : Bytes

namespace LaunchPlan

/-- Bytes with a zero behind them. -/
def terminated (bytes : Bytes) : Bytes := bytes ++ [0]

def ofArgv (argv : Argv) : LaunchPlan where
  strings := argv.words.map fun word => terminated (Bytes.ofString word)
  pointers := (List.range argv.words.length).map some ++ [none]
  notFound := Bytes.ofString (argv.name ++ ": command not found\n")

/-- The bytes before the first zero, if there is one. -/
def beforeZero? : Bytes → Option Bytes
  | [] => none
  | byte :: rest => if byte = 0 then some [] else (beforeZero? rest).map (byte :: ·)

def string? (plan : LaunchPlan) (place : Nat) : Option Bytes :=
  plan.strings[place]?.bind beforeZero?

/-- The strings that pointers lead to, up to the null pointer if there is one. -/
def follow? (plan : LaunchPlan) : List (Option Nat) → Option (List Bytes)
  | [] => none
  | none :: _ => some []
  | some place :: rest => do
    let string ← plan.string? place
    let later ← plan.follow? rest
    pure (string :: later)

/-- The name of the program that is looked for. -/
def program? (plan : LaunchPlan) : Option Bytes := plan.string? 0

/-- The words that the program is started with. -/
def words? (plan : LaunchPlan) : Option (List Bytes) := plan.follow? plan.pointers

end LaunchPlan

end JobShell
