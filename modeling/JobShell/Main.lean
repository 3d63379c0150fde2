import JobShell.Machine.Host
import JobShell.Program
import JobShell.Reader.Stream

/-!
The command line.

The standard input is taken whole before the shell reads from it, and what the shell and its
children write is handed on in the order in which it was written.
-/

open JobShell

/-- The variables that reach the shell and its children. -/
def passedVariables : List String :=
  ["PATH", "HOME", "USER", "MISH_LOG", "NO_COLOR", "CLICOLOR", "CLICOLOR_FORCE", "COLORTERM", "TERM",
   "TERM_PROGRAM"]

def readEnvironment : IO Environment :=
  passedVariables.foldlM (fun env name => do
    match ← IO.getEnv name with
    | some value => pure (env.set name (Bytes.ofString value))
    | none => pure env) {}

/-- The input of the read loop; a run that has no use for it leaves it alone. -/
def readInput (args : List String) : IO Bytes := do
  let input ← IO.getStdin
  let rec all (taken : ByteArray) (fuel : Nat) : IO ByteArray :=
    match fuel with
    | 0 => pure taken
    | fuel + 1 => do
      let more ← input.read 65536
      if more.isEmpty then pure taken else all (taken ++ more) fuel
  match Program.start args with
  | .ready flags =>
    if flags.command.isSome then pure [] else return (← all ByteArray.empty 4294967296).toList
  | _ => pure []

def main (args : List String) : IO UInt32 := do
  let env ← readEnvironment
  let input ← readInput args
  let clock ← IO.monoNanosNow
  let machine : Machine := { tree := Files.Tree.system, env, clock }
  let out ← IO.getStdout
  let err ← IO.getStderr
  let console := Program.console args env (← err.isTty)
  let program : Act Machine Nat := do
    let status ← Program.run args ({ input } : StreamReader)
    Act.ask Machine.leave
    pure status
  let outcome := program machine
  let journal := visible outcome.written
  for entry in journal do
    out.write ⟨(Console.outputBytes entry).toArray⟩
    err.write ⟨(console.errorBytes entry).toArray⟩
  out.flush
  match endOf? journal with
  | some signal => pure (128 + signal).toUInt32
  | none => pure outcome.value.toUInt32
