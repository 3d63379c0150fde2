import JobShell.Journal

/-!
# What is seen of a journal

Until a signal ends the shell all of the journal is seen; behind it only what the children write
(`visible_cases`).
-/

namespace JobShell

/-- What reaches the standard output. -/
def Console.stdout (journal : List Entry) : Bytes := (visible journal).flatMap outputBytes

/-- What reaches the error stream. -/
def Console.stderr (console : Console) (journal : List Entry) : Bytes :=
  (visible journal).flatMap console.errorBytes

def Entry.isChild : Entry → Bool
  | .child _ _ => true
  | _ => false

theorem visible_ended (signal : Nat) (rest : List Entry) :
    visible (.ended signal :: rest) = .ended signal :: rest.filter Entry.isChild := rfl

section

variable {entry : Entry} (h : ∀ signal, entry ≠ .ended signal) (rest : List Entry)

include h

theorem visible_cons : visible (entry :: rest) = entry :: visible rest := by
  cases entry with
  | ended signal => exact absurd rfl (h signal)
  | _ => rfl

theorem endOf?_cons : endOf? (entry :: rest) = endOf? rest := by
  cases entry with
  | ended signal => exact absurd rfl (h signal)
  | _ => rfl

end

theorem visible_notices (finished : List FinishedJob) (rest : List Entry) :
    visible (finished.map .notice ++ rest) = finished.map .notice ++ visible rest := by
  induction finished with
  | nil => rfl
  | cons f later ih => exact congrArg (Entry.notice f :: ·) ih

/-- A journal is seen whole, or up to the end of the shell and behind it the children only. -/
theorem visible_cases (journal : List Entry) :
    (endOf? journal = none ∧ visible journal = journal) ∨
    ∃ before signal after, journal = before ++ .ended signal :: after ∧
      endOf? journal = some signal ∧
      visible journal = before ++ .ended signal :: after.filter Entry.isChild := by
  induction journal with
  | nil => exact Or.inl ⟨rfl, rfl⟩
  | cons entry rest ih =>
    by_cases hended : ∃ signal, entry = .ended signal
    · obtain ⟨signal, rfl⟩ := hended
      exact Or.inr ⟨[], signal, rest, rfl, rfl, visible_ended signal rest⟩
    · have hgoes : ∀ signal, entry ≠ .ended signal := fun signal h => hended ⟨signal, h⟩
      rw [visible_cons hgoes, endOf?_cons hgoes]
      rcases ih with ⟨hend, hseen⟩ | ⟨before, signal, after, hrest, hend, hseen⟩
      · exact Or.inl ⟨hend, congrArg _ hseen⟩
      · exact Or.inr ⟨entry :: before, signal, after, congrArg _ hrest, hend, congrArg _ hseen⟩

/-- A shell that was not ended is seen in all it writes. -/
theorem visible_of_endOf?_eq_none {journal : List Entry} (h : endOf? journal = none) :
    visible journal = journal := by
  rcases visible_cases journal with ⟨-, hseen⟩ | ⟨before, signal, after, -, hended, -⟩
  · exact hseen
  · rw [hended] at h
    cases h

end JobShell
