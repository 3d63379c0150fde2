import JobShell.Host

/-!
# A host that remembers what it was asked

`Recorded σ` answers as `σ` does and keeps each question with its answer, in order.  What a part of
the shell asks of its host is then what it adds to the record.
-/

namespace JobShell

/-- A question to a host with the answer it was given. -/
inductive Question
  | launched (argv : Argv) (result : Except Errno Pid)
  | waited (pid : Pid) (answer : WaitAnswer)
  | looked (pid : Pid) (answer : WaitAnswer)
  | newsTaken (told : Bool)
  | watched (result : Except String Unit)
  | interruptsCaught (result : Except String Unit)
  | directoryChanged (path : Bytes) (result : Except IoError Unit)
  | flushed (result : Except IoError Unit)

namespace Question

/-- The child that was asked about, waiting or not, and what was told of it. -/
def ofChild? : Question → Option (Pid × WaitAnswer)
  | waited pid answer => some (pid, answer)
  | looked pid answer => some (pid, answer)
  | _ => none

/-- What a child was to be started on. -/
def launch? : Question → Option Argv
  | launched argv _ => some argv
  | _ => none

end Question

structure Recorded (σ : Type) where
  host : σ
  record : List Question := []

namespace Recorded

variable {σ α : Type}

/-- Enters an outcome of the host. -/
def keep (recorded : Recorded σ) (question : α → Question) (outcome : Outcome Output σ α) :
    Outcome Output (Recorded σ) α :=
  ⟨outcome.value, outcome.written, ⟨outcome.state, recorded.record ++ [question outcome.value]⟩⟩

/-- What was asked between two states of a recorded host. -/
def since (before after : Recorded σ) : List Question := after.record.drop before.record.length

/-- What was asked about children between two states of a recorded host, waiting or not. -/
def childAnswers (before after : Recorded σ) : List (Pid × WaitAnswer) :=
  (since before after).filterMap Question.ofChild?

/-- What children were to be started on between two states of a recorded host. -/
def launches (before after : Recorded σ) : List Argv :=
  (since before after).filterMap Question.launch?

theorem since_eq {before after : Recorded σ} {asked : List Question}
    (h : after.record = before.record ++ asked) : since before after = asked := by
  rw [since, h, List.drop_left]

theorem childAnswers_eq {before after : Recorded σ} {asked : List Question}
    (h : after.record = before.record ++ asked) :
    childAnswers before after = asked.filterMap Question.ofChild? := by
  rw [childAnswers, since_eq h]

/-- All that was asked between two states is of one kind. -/
def Asks (kind : Question → Prop) (before after : Recorded σ) : Prop :=
  ∃ asked, after.record = before.record ++ asked ∧ ∀ question ∈ asked, kind question

namespace Asks

variable {kind : Question → Prop} {before middle after : Recorded σ}

theorem refl (recorded : Recorded σ) : Asks kind recorded recorded :=
  ⟨[], (List.append_nil _).symm, fun _ h => absurd h List.not_mem_nil⟩

theorem single {question : Question} (h : after.record = before.record ++ [question])
    (hkind : kind question) : Asks kind before after := by
  refine ⟨[question], h, fun other hother => ?_⟩
  rw [List.mem_singleton.mp hother]
  exact hkind

theorem trans (h : Asks kind before middle) (h' : Asks kind middle after) :
    Asks kind before after := by
  obtain ⟨first, hfirst, hkind⟩ := h
  obtain ⟨second, hsecond, hkind'⟩ := h'
  refine ⟨first ++ second, by rw [hsecond, hfirst, List.append_assoc], fun question hmem => ?_⟩
  rcases List.mem_append.mp hmem with hmem | hmem
  · exact hkind question hmem
  · exact hkind' question hmem

theorem of_mem_since (h : Asks kind before after) :
    ∀ question ∈ since before after, kind question := by
  obtain ⟨asked, hasked, hkind⟩ := h
  rw [since_eq hasked]
  exact hkind

end Asks

variable [Host σ]

instance : Host (Recorded σ) where
  launch argv recorded := recorded.keep (.launched argv) (Host.launch argv recorded.host)
  wait pid recorded := recorded.keep (.waited pid) (Host.wait pid recorded.host)
  look pid recorded := recorded.keep (.looked pid) (Host.look pid recorded.host)
  takeChildNews recorded := recorded.keep .newsTaken (Host.takeChildNews recorded.host)
  watchChildren recorded := recorded.keep .watched (Host.watchChildren recorded.host)
  catchInterrupts recorded := recorded.keep .interruptsCaught (Host.catchInterrupts recorded.host)
  changeDirectory path recorded :=
    recorded.keep (.directoryChanged path) (Host.changeDirectory path recorded.host)
  flush recorded := recorded.keep .flushed (Host.flush recorded.host)
  home recorded := Host.home recorded.host
  hostName recorded := Host.hostName recorded.host
  userName recorded := Host.userName recorded.host
  now recorded := Host.now recorded.host
  patience pid recorded := Host.patience pid recorded.host
  patience_wait h := Host.patience_wait h

@[simp] theorem record_look (pid : Pid) (recorded : Recorded σ) :
    (Host.look pid recorded).state.record =
      recorded.record ++ [.looked pid (Host.look pid recorded).value] := rfl

@[simp] theorem record_wait (pid : Pid) (recorded : Recorded σ) :
    (Host.wait pid recorded).state.record =
      recorded.record ++ [.waited pid (Host.wait pid recorded).value] := rfl

@[simp] theorem record_takeChildNews (recorded : Recorded σ) :
    (Host.takeChildNews recorded).state.record =
      recorded.record ++ [.newsTaken (Host.takeChildNews recorded).value] := rfl

@[simp] theorem record_watchChildren (recorded : Recorded σ) :
    (Host.watchChildren recorded).state.record =
      recorded.record ++ [.watched (Host.watchChildren recorded).value] := rfl

@[simp] theorem record_launch (argv : Argv) (recorded : Recorded σ) :
    (Host.launch argv recorded).state.record =
      recorded.record ++ [.launched argv (Host.launch argv recorded).value] := rfl

@[simp] theorem record_flush (recorded : Recorded σ) :
    (Host.flush recorded).state.record =
      recorded.record ++ [.flushed (Host.flush recorded).value] := rfl

end Recorded

end JobShell
