/-!
The programs that a machine has installed.
-/

namespace JobShell.Files

/-- A program that every machine has. -/
inductive Tool
  | shell | succeed | fail | check | bracket | echo | sleep | makeDirectory | removeDirectory
  | search | move | workingDirectory | format | list
  /-- A program that has nothing to say on such a machine. -/
  | silent
  deriving DecidableEq, Repr

/-- The file names under which the programs are installed. -/
def Tool.installed : List (String × Tool) :=
  [("[", .bracket), ("dash", .shell), ("dir", .list), ("echo", .echo), ("false", .fail),
   ("grep", .search), ("mkdir", .makeDirectory), ("mv", .move), ("printf", .format),
   ("pwd", .workingDirectory), ("rmdir", .removeDirectory), ("sh", .shell), ("sleep", .sleep),
   ("sync", .silent), ("test", .check), ("true", .succeed), ("who", .silent), ("users", .silent)]

end JobShell.Files
