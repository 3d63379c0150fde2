import JobShell.Child
import JobShell.Proofs.Effects

/-!
# Waiting, answer by answer

`Child.await` asks until an answer is final (`await_eq`): it gives what a final answer says
(`await_final`), and any other only makes it ask again (`await_again`).
-/

namespace JobShell

/-- What a final answer makes of the command that was waited for. -/
def WaitAnswer.verdict? : WaitAnswer → Option (Except ProcessError Status)
  | exited code => some (.ok (.exited code))
  | signaled signal => some (.ok (.signaled signal))
  | failed errno => if errno = Errno.interrupted then none else some (.error (.wait errno))
  | alive | changed _ => none

theorem WaitAnswer.verdict?_eq_none_iff {answer : WaitAnswer} :
    answer.verdict? = none ↔ answer.isFinal = false := by
  cases answer with
  | failed errno =>
    by_cases h : errno = Errno.interrupted
    · simp [verdict?, isFinal, h]
    · simp [verdict?, isFinal, h]
  | _ => simp [verdict?, isFinal]

namespace Child

variable {σ : Type} [Host σ]

/-- What is logged of an answer to a wait. -/
def note (pid : Pid) : WaitAnswer → Act σ Unit
  | .exited code => Act.debug .launcher s!"pid {pid.number} exited with {code}"
  | .signaled signal => Act.debug .launcher s!"pid {pid.number} killed by {signal.name}"
  | .failed _ => pure ()
  | .alive => Act.debug .launcher "ignoring wait event StillAlive"
  | .changed event => Act.debug .launcher s!"ignoring wait event {event}"

@[simp] theorem note_state (pid : Pid) (answer : WaitAnswer) (host : σ) :
    (note pid answer host).state = host := by
  cases answer <;> rfl

/-- A wait is a question, a note of the answer, and another wait if the answer is not final. -/
theorem await_eq (pid : Pid) : await pid = (do
    let answer ← Act.ask (Host.wait pid)
    note pid answer
    match answer.verdict? with
    | some result => pure result
    | none => await pid : Act σ (Except ProcessError Status)) := by
  funext host
  rw [await, Act.bind_apply, Act.ask_value]
  split
  · rename_i code heq
    rw [heq]
    rfl
  · rename_i signal heq
    rw [heq]
    rfl
  · rename_i errno heq
    rw [heq]
    by_cases herrno : errno = Errno.interrupted
    · rw [dif_pos herrno]
      simp only [WaitAnswer.verdict?, if_pos herrno]
      rfl
    · rw [dif_neg herrno]
      simp only [WaitAnswer.verdict?, if_neg herrno]
      show _ = Outcome.mk _ (_ ++ []) _
      rw [List.append_nil]
      rfl
  · rename_i heq
    rw [heq]
    show Outcome.mk _ ((_ ++ _) ++ _) _ = _
    rw [List.append_assoc]
    rfl
  · rename_i event heq
    rw [heq]
    show Outcome.mk _ ((_ ++ _) ++ _) _ = _
    rw [List.append_assoc]
    rfl

theorem await_final {pid : Pid} {host : σ} {result : Except ProcessError Status}
    (h : (Host.wait pid host).value.verdict? = some result) :
    (await pid host).value = result ∧ (await pid host).state = (Host.wait pid host).state := by
  rw [await_eq]
  simp only [Act.bind_value, Act.bind_state, Act.ask_value, Act.ask_state, note_state, h]
  exact ⟨rfl, rfl⟩

theorem await_again {pid : Pid} {host : σ} (h : (Host.wait pid host).value.verdict? = none) :
    (await pid host).value = (await pid (Host.wait pid host).state).value ∧
      (await pid host).state = (await pid (Host.wait pid host).state).state := by
  have hawait := congrFun (await_eq pid) host
  rw [hawait]
  simp only [Act.bind_value, Act.bind_state, Act.ask_value, Act.ask_state, h]
  constructor
  · show (await pid (note pid _ _).state).value = _
    rw [note_state]
  · show (await pid (note pid _ _).state).state = _
    rw [note_state]

/-- Waiting is followed answer by answer: what holds when the answer is final, and is carried back
over an answer that is not, holds of any wait. -/
@[elab_as_elim]
theorem await_induction (pid : Pid) {motive : σ → Prop}
    (final : ∀ (host : σ) (result : Except ProcessError Status),
      (Host.wait pid host).value.verdict? = some result → motive host)
    (again : ∀ host : σ, (Host.wait pid host).value.verdict? = none →
      motive (Host.wait pid host).state → motive host) (host : σ) : motive host := by
  induction hn : Host.patience pid host using Nat.strongRecOn generalizing host with
  | _ n ih =>
    cases hverdict : (Host.wait pid host).value.verdict? with
    | some result => exact final host result hverdict
    | none =>
      refine again host hverdict (ih _ ?_ _ rfl)
      rw [← hn]
      exact Host.patience_wait (WaitAnswer.verdict?_eq_none_iff.mp hverdict)

/-- A wait gives how the child ended, or it fails. -/
theorem await_cases (pid : Pid) (host : σ) :
    (∃ code, (await pid host).value = .ok (.exited code)) ∨
      (∃ signal, (await pid host).value = .ok (.signaled signal)) ∨
      ∃ errno, (await pid host).value = .error (.wait errno) := by
  refine await_induction pid (fun host result hfinal => ?_) (fun host hopen ih => ?_) host
  · rw [(await_final hfinal).1]
    cases hanswer : (Host.wait pid host).value with
    | exited code =>
      rw [hanswer] at hfinal
      exact Or.inl ⟨code, (Option.some.inj hfinal).symm⟩
    | signaled signal =>
      rw [hanswer] at hfinal
      exact Or.inr (Or.inl ⟨signal, (Option.some.inj hfinal).symm⟩)
    | failed errno =>
      rw [hanswer] at hfinal
      by_cases herrno : errno = Errno.interrupted
      · simp [WaitAnswer.verdict?, herrno] at hfinal
      · simp only [WaitAnswer.verdict?, if_neg herrno] at hfinal
        exact Or.inr (Or.inr ⟨errno, (Option.some.inj hfinal).symm⟩)
    | _ =>
      rw [hanswer] at hfinal
      cases hfinal
  · rw [(await_again hopen).1]
    exact ih

end Child

end JobShell
