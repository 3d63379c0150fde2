import JobShell.Writer

/-!
Where the shell writes bytes: a writer that may run out of room.
-/

namespace JobShell

/-- A writer that takes so many bytes more and then none, or any number of them. -/
structure Sink where
  room : Option Nat := none
  deriving DecidableEq, Repr, Inhabited

/-- What came of writing bytes: those that were taken, whether they were all, and the sink left. -/
structure Sink.Written where
  taken : Bytes
  whole : Bool
  sink : Sink

/-- Writes as many of the bytes as there is room for. -/
def Sink.write (sink : Sink) (bytes : Bytes) : Sink.Written :=
  match sink.room with
  | none => ⟨bytes, true, sink⟩
  | some n => ⟨bytes.take n, decide (bytes.length ≤ n), ⟨some (n - bytes.length)⟩⟩

/-- A sink keeps nothing back. -/
instance : Writer Sink where
  write bytes sink :=
    let written := sink.write bytes
    ⟨written.taken, if written.whole then .ok () else .error .writeRefused, written.sink⟩
  flush sink := (.ok (), sink)

theorem Sink.deliver_eq (bytes : Bytes) (sink : Sink) : Writer.deliver bytes sink =
    ⟨(sink.write bytes).taken,
      if (sink.write bytes).whole then .ok () else .error .writeRefused,
      (sink.write bytes).sink⟩ := by
  have hresult : (Writer.write bytes sink).result =
      if (sink.write bytes).whole then .ok () else .error .writeRefused := rfl
  simp only [Writer.deliver, hresult]
  cases hwhole : (sink.write bytes).whole with
  | true => rfl
  | false =>
    show Writer.write bytes sink = _
    rw [← hwhole]
    rfl

end JobShell
