import JobShell.Failure
import JobShell.Text.Bytes

/-!
Writers of bytes.

A write either takes all bytes or fails, and one that fails may have taken some of them; handing on
what is still kept back may fail as well.
-/

namespace JobShell

/-- What came of a write: the bytes that were taken, whether it failed, and the writer left. -/
structure Write (ω : Type) where
  taken : Bytes
  result : Except IoError Unit
  rest : ω

class Writer (ω : Type) where
  write : Bytes → ω → Write ω
  /-- Hands on what is still kept back. -/
  flush : ω → Except IoError Unit × ω

namespace Writer

variable {ω : Type} [Writer ω]

/-- Writes the bytes and hands them on; a write that fails hands on nothing. -/
def deliver (bytes : Bytes) (out : ω) : Write ω :=
  let written := write bytes out
  match written.result with
  | .error _ => written
  | .ok () =>
    let flushed := flush written.rest
    ⟨written.taken, flushed.1, flushed.2⟩

theorem deliver_error_iff {bytes : Bytes} {out : ω} {error : IoError} :
    (deliver bytes out).result = .error error ↔ (write bytes out).result = .error error ∨
      (write bytes out).result = .ok () ∧ (flush (write bytes out).rest).1 = .error error := by
  simp only [deliver]
  split
  · rename_i hwritten
    simp [hwritten]
  · rename_i hwritten
    simp [hwritten]

end Writer

end JobShell
