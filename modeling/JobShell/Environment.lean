import JobShell.Text.Bytes

/-!
Environment variables.
-/

namespace JobShell

/-- The variables that are set; each name stands at most once. -/
structure Environment where
  entries : List (String × Bytes) := []
  deriving Inhabited

namespace Environment

def get? (env : Environment) (name : String) : Option Bytes := env.entries.lookup name

/-- The value of a variable that is set to a valid text. -/
def text? (env : Environment) (name : String) : Option String :=
  (env.get? name).bind Bytes.text?

def unset (env : Environment) (name : String) : Environment :=
  ⟨env.entries.filter (·.1 != name)⟩

def set (env : Environment) (name : String) (value : Bytes) : Environment :=
  ⟨(env.unset name).entries ++ [(name, value)]⟩

end Environment

end JobShell
