import JobShell.Command

/-!
Argument vectors.

The system takes the words of a command as texts that a null character ends, so a word that holds
one cannot be passed.  `Argv.ofCommand` refuses such a command with the first word that offends and
otherwise passes every word unchanged (`words_ofCommand`).
-/

namespace JobShell

def holdsNull (word : String) : Bool := word.toList.contains '\x00'

/-- The words that a program is started with; its own name is the first. -/
structure Argv where
  name : String
  args : List String
  noNull : ∀ word ∈ name :: args, holdsNull word = false

namespace Argv

def words (argv : Argv) : List String := argv.name :: argv.args

def ofCommand (cmd : Command) : Except String Argv :=
  match h : cmd.arguments.find? holdsNull with
  | some word => .error word
  | none => .ok ⟨cmd.name, cmd.args, by simpa [Command.arguments] using h⟩

theorem ofCommand_eq_error_iff {cmd : Command} {word : String} :
    ofCommand cmd = .error word ↔ cmd.arguments.find? holdsNull = some word := by
  unfold ofCommand
  split
  · rename_i other hfound
    rw [hfound, Except.error.injEq, Option.some.injEq]
  · rename_i hfound
    refine iff_of_false (fun h => nomatch h) fun hword => ?_
    rw [hfound] at hword
    cases hword

theorem words_ofCommand {cmd : Command} {argv : Argv} (h : ofCommand cmd = .ok argv) :
    argv.words = cmd.arguments := by
  unfold ofCommand at h
  split at h
  · cases h
  · cases h; rfl

end Argv

end JobShell
