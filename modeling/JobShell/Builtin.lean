import JobShell.Journal
import JobShell.State

/-!
Commands that run inside the shell.

A built-in sees the command and the shell's state and answers with a code and with requests for the
state; it has no other hold on the state.  Registered names are unique, and a later registration
takes the place of an earlier one.
-/

namespace JobShell

/-- What a built-in gives back. -/
structure Reply where
  code : Int
  requests : List ShellState.Request := []
  deriving DecidableEq, Repr

/-- A built-in; the first argument is the number of calls of this registration before. -/
def Builtin (σ : Type) : Type := Nat → Command → ShellState → Act σ Reply

/-- A built-in and how often it has been called. -/
structure Registration (σ : Type) where
  handler : Builtin σ
  calls : Nat := 0

/-- The registered built-ins. -/
structure Builtins (σ : Type) where
  entries : List (String × Registration σ) := []

namespace Builtins

variable {σ : Type}

def get? (builtins : Builtins σ) (name : String) : Option (Registration σ) :=
  builtins.entries.lookup name

def isBuiltin (builtins : Builtins σ) (name : String) : Bool := (builtins.get? name).isSome

/-- Puts a registration in the place of any other under its name. -/
def put (builtins : Builtins σ) (name : String) (registration : Registration σ) : Builtins σ :=
  ⟨(name, registration) :: builtins.entries.filter (·.1 != name)⟩

def register (builtins : Builtins σ) (name : String) (handler : Builtin σ) : Builtins σ :=
  builtins.put name { handler }

/-- The registered names in ascending order. -/
def names (builtins : Builtins σ) : List String :=
  (builtins.entries.map (·.1)).mergeSort fun a b => decide (a ≤ b)

/-- Calls a registration; gives its code, the state after its requests, and the built-ins with the
call counted. -/
def call (builtins : Builtins σ) (registration : Registration σ) (cmd : Command)
    (state : ShellState) : Act σ (Int × ShellState × Builtins σ) := do
  let reply ← registration.handler registration.calls cmd state
  let counted := builtins.put cmd.name { registration with calls := registration.calls + 1 }
  pure (reply.code, state.applyAll reply.requests, counted)

theorem get?_put_self (builtins : Builtins σ) (name : String) (r : Registration σ) :
    (builtins.put name r).get? name = some r := by
  simp [put, get?]

theorem lookup_filter_ne {α : Type} (entries : List (String × α)) {name other : String}
    (h : other ≠ name) :
    (entries.filter (·.1 != name)).lookup other = entries.lookup other := by
  induction entries with
  | nil => rfl
  | cons e es ih =>
    obtain ⟨k, v⟩ := e
    by_cases hk : k = name
    · subst hk
      have hne : (other == k) = false := by simpa using h
      simp [List.lookup_cons, hne, ih]
    · have hkeep : (k != name) = true := by simpa using hk
      simp only [List.filter_cons, hkeep, if_true, List.lookup_cons]
      split
      · rfl
      · exact ih

theorem get?_put_of_ne (builtins : Builtins σ) {name other : String} (h : other ≠ name)
    (r : Registration σ) : (builtins.put name r).get? other = builtins.get? other := by
  have hne : (other == name) = false := by simpa using h
  simp only [put, get?, List.lookup_cons, hne]
  exact lookup_filter_ne _ h

end Builtins

end JobShell
