import JobShell.Reader
import JobShell.Sink

/-!
A reader whose answers are laid down beforehand.
-/

namespace JobShell

/-- The answers still to be given, and the writer of the prompts; behind the last answer the input
is closed. -/
structure ScriptedReader where
  answers : List ReadAnswer
  prompts : Sink := {}
  deriving Inhabited

namespace ScriptedReader

def read (prompt : String) (reader : ScriptedReader) : Reading ScriptedReader :=
  let written := reader.prompts.write (Bytes.ofString prompt)
  if !written.whole then
    ⟨.failed (.io .writeRefused), written.taken, { reader with prompts := written.sink }⟩
  else
    match reader.answers with
    | [] => ⟨.closed, written.taken, ⟨[], written.sink⟩⟩
    | answer :: rest => ⟨answer, written.taken, ⟨rest, written.sink⟩⟩

theorem length_read {prompt : String} {reader : ScriptedReader} {text : String}
    (h : (reader.read prompt).answer = .line text) :
    (reader.read prompt).rest.answers.length < reader.answers.length := by
  unfold read at h ⊢
  simp only at h ⊢
  split at h
  · cases h
  · rename_i hw
    rw [if_neg hw]
    cases ha : reader.answers with
    | nil => rw [ha] at h; cases h
    | cons answer rest => simp

instance : LineReader ScriptedReader where
  read := read
  linesLeft reader := reader.answers.length
  linesLeft_read h := length_read h

end ScriptedReader

end JobShell
