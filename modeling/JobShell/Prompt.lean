/-!
The prompt of the shell.
-/

namespace JobShell

/-- The host, the user in parentheses, and a percent sign. -/
def prompt (host user : String) : String := s!"{host}({user})% "

end JobShell
