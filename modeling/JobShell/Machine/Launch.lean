import JobShell.LaunchPlan
import JobShell.Machine.Request

/-!
Going over to a program that is known by its name.

A name with a slash is the path of the program, and any other is looked for in the directories of
the search path; one that leads to nothing that can be run there is passed over.  A file that is
neither a program nor names an interpreter is read by the system shell.
-/

namespace JobShell.Machine

open Files

namespace Launch

def shellPath : Bytes := Bytes.ofString "/bin/sh"

/-- Goes over to the program in a file, or to the system shell with that file. -/
def execute (path : Bytes) (words : List Bytes) (env : Environment) : Doing Errno := do
  let e ← Doing.ask (.execute path words env)
  if e = Errno.noExec then
    Doing.ask (.execute shellPath (shellPath :: path :: words.drop 1) env)
  else pure e

/-- Errors after which the search goes on in the next directory. -/
def goesOn (e : Errno) : Bool :=
  e = Errno.noEntry || e = Errno.access || e = Errno.notDirectory || e = Errno.noDevice

/-- Tries directories in turn; an empty name is the working directory. -/
def search (name : Bytes) (words : List Bytes) (env : Environment) : List Bytes → Doing Unit
  | [] => pure ()
  | place :: rest =>
    if maxPath ≤ place.length then search name words env rest
    else do
      let path := if place.isEmpty then name else place ++ slash :: name
      let e ← execute path words env
      if goesOn e then search name words env rest

/-- Where programs are looked for if the environment does not say. -/
def usualPlaces : Bytes := Bytes.ofString "/bin:/usr/bin"

/-- Goes over to the program of this name, if it can be found. -/
def find (name : Bytes) (words : List Bytes) (env : Environment) : Doing Unit := do
  if name.isEmpty || maxName < name.length && !name.contains slash then pure ()
  else if name.contains slash then
    let _ ← execute name words env
  else search name words env (((env.get? "PATH").getD usualPlaces).splitOn 58)

/-- The status of a process whose program was not found. -/
def notFound : Nat := 127

/-- What a new child does: it becomes the program that a lookup finds, or says that there is
none. -/
def work (lookup : Bytes → List Bytes → Environment → Doing Unit) (argv : Argv)
    (env : Environment) : Work := Doing.work do
  let plan := LaunchPlan.ofArgv argv
  lookup (plan.program?.getD []) (plan.words?.getD []) env
  let _ ← Doing.ask (.write 2 plan.notFound)
  pure notFound

end Launch

end JobShell.Machine
