import JobShell.Builtin.Exit

/-!
The built-in `cd`.
-/

namespace JobShell

namespace ChangeDirectory

/-- The directory that the command names: its first argument, or else the home directory. -/
def target? {σ : Type} [Host σ] (cmd : Command) (host : σ) : Option Bytes :=
  match cmd.args.head? with
  | some path => some (Bytes.ofString path)
  | none => Host.home host

def builtin {σ : Type} [Host σ] : Builtin σ := fun _ cmd _ => do
  match ← Act.view (target? cmd) with
  | none =>
    Act.write (.message "cd: home directory not found")
    pure { code := 1 }
  | some path =>
    match ← Act.ask (Host.changeDirectory path) with
    | .ok () =>
      Act.debug .changeDirectory s!"changed directory to {Bytes.lossyText path}"
      pure { code := 0 }
    | .error error =>
      Act.write (.message s!"cd: {Bytes.lossyText path}: {error.message}")
      pure { code := 1 }

end ChangeDirectory

/-- The built-ins of a new shell. -/
def Builtins.defaults {σ : Type} [Host σ] : Builtins σ :=
  (({} : Builtins σ).register "exit" Exit.builtin).register "cd" ChangeDirectory.builtin

end JobShell
