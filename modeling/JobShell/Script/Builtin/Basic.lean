import JobShell.Script.Builtin.Alias
import JobShell.Script.Builtin.Condition
import JobShell.Script.Builtin.Directory
import JobShell.Script.Builtin.Input
import JobShell.Script.Builtin.Limits
import JobShell.Script.Builtin.Printing
import JobShell.Script.Builtin.Signalling
import JobShell.Script.Builtin.Variables
import JobShell.Script.Builtin.Waiting

/-!
The commands that the shell carries out itself.

An error in a special one breaks off the script, and variables set before it stay set.
-/

namespace JobShell.Script

open Toolbox

inductive Builtin
  | dot | colon | alias_ | break_ | continue_ | directory | command | echo | evaluate | execute
  | exit | export_ | false_ | resume | options | hash | jobs | kill | local_ | printf
  | showDirectory | read | fixed | return_ | set_ | shift | test (isBracketed : Bool) | times | trap
  | true_ | kind | limits | mask | unalias | unset | wait
  deriving DecidableEq, Repr

namespace Builtin

def all : List (String × Builtin) :=
  [(".", dot), (":", colon), ("[", test true), ("alias", alias_), ("bg", resume),
   ("break", break_), ("cd", directory), ("chdir", directory), ("command", command),
   ("continue", continue_), ("echo", echo), ("eval", evaluate), ("exec", execute), ("exit", exit),
   ("export", export_), ("false", false_), ("fg", resume), ("getopts", options), ("hash", hash),
   ("jobs", jobs), ("kill", kill), ("local", local_), ("printf", printf), ("pwd", showDirectory),
   ("read", read), ("readonly", fixed), ("return", return_), ("set", set_), ("shift", shift),
   ("test", test false), ("times", times), ("trap", trap), ("true", true_), ("type", kind),
   ("ulimit", limits), ("umask", mask), ("unalias", unalias), ("unset", unset), ("wait", wait)]

def ofName? (name : Text) : Option Builtin :=
  (all.find? (·.1.toList == name)).map (·.2)

def isSpecial : Builtin → Bool
  | dot | colon | break_ | continue_ | evaluate | execute | exit | export_ | fixed | local_
  | return_ | set_ | shift | times | trap | unset => true
  | _ => false

/-- The arguments of some commands may set variables. -/
def takesAssignments : Builtin → Bool
  | alias_ | export_ | fixed | local_ => true
  | _ => false

end Builtin

end JobShell.Script
