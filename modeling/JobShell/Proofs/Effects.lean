import JobShell.Journal

/-!
# What the basic actions do

Each basic action of the shell taken apart: its value, what it writes, and the host it leaves.  Only
`ask` touches the host.
-/

namespace JobShell.Act

variable {σ α β : Type}

theorem bind_apply (x : Act σ α) (f : α → Act σ β) (host : σ) :
    (x >>= f) host = ⟨(f (x host).value (x host).state).value,
      (x host).written ++ (f (x host).value (x host).state).written,
      (f (x host).value (x host).state).state⟩ := rfl

@[simp] theorem ask_value (question : σ → Outcome Output σ α) (host : σ) :
    (ask question host).value = (question host).value := rfl

@[simp] theorem ask_state (question : σ → Outcome Output σ α) (host : σ) :
    (ask question host).state = (question host).state := rfl

@[simp] theorem view_value (f : σ → α) (host : σ) : (view f host).value = f host := rfl

@[simp] theorem view_state (f : σ → α) (host : σ) : (view f host).state = host := rfl

@[simp] theorem write_state (entry : Entry) (host : σ) : (write entry host).state = host := rfl

variable [Host σ]

@[simp] theorem debug_state (source : Log.Source) (message : String) (host : σ) :
    (debug source message host).state = host := rfl

@[simp] theorem warn_state (source : Log.Source) (message : String) (host : σ) :
    (warn source message host).state = host := rfl

end JobShell.Act
