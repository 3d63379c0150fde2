import JobShell.Reader
import JobShell.Sink

/-!
Lines of a byte stream.

A read takes the bytes through the next line feed.  Its line is their text without the terminator;
bytes that are no valid text are taken all the same, and the next read goes on behind them.  A
prompt that cannot be written takes nothing.
-/

namespace JobShell

/-- The byte that ends a line. -/
def lineFeed : UInt8 := 10

/-- The bytes through the first line feed, and the rest. -/
def cutLine (input : Bytes) : Bytes × Bytes :=
  let line := input.takeWhile (· != lineFeed)
  match input.dropWhile (· != lineFeed) with
  | [] => (line, [])
  | _ :: rest => (line ++ [lineFeed], rest)

/-- A text without the line feed at its end and, where there was one, without one carriage return
before it. -/
def withoutTerminator (cs : List Char) : List Char :=
  match cs.reverse with
  | '\n' :: '\r' :: before => before.reverse
  | '\n' :: before => before.reverse
  | _ => cs

theorem length_cutLine (input : Bytes) :
    (cutLine input).1.length + (cutLine input).2.length = input.length := by
  have h := congrArg List.length (List.takeWhile_append_dropWhile (p := (· != lineFeed)) (l := input))
  rw [List.length_append] at h
  unfold cutLine
  split
  · rename_i heq
    rw [heq] at h
    simpa using h
  · rename_i heq
    rw [heq] at h
    simp at h ⊢
    omega

theorem cutLine_ne_nil {input : Bytes} (h : input ≠ []) : (cutLine input).1 ≠ [] := by
  cases input with
  | nil => exact absurd rfl h
  | cons b bs =>
    unfold cutLine
    by_cases hb : b = lineFeed
    · subst hb; simp
    · split <;> simp [hb]

theorem length_cutLine_rest_lt {input : Bytes} (h : input ≠ []) :
    (cutLine input).2.length < input.length := by
  have h₁ := length_cutLine input
  have h₂ := List.length_pos_iff.mpr (cutLine_ne_nil h)
  omega

/-- A byte stream and the writer of its prompts. -/
structure StreamReader where
  input : Bytes
  prompts : Sink := {}
  deriving Inhabited

namespace StreamReader

/-- The answer to a read that has taken these bytes. -/
def answer (taken : Bytes) : ReadAnswer :=
  match taken.text? with
  | some text => .line (String.ofList (withoutTerminator text.toList))
  | none => .failed (.io .invalidText)

def read (prompt : String) (reader : StreamReader) : Reading StreamReader :=
  let written := reader.prompts.write (Bytes.ofString prompt)
  if !written.whole then
    ⟨.failed (.io .writeRefused), written.taken, { reader with prompts := written.sink }⟩
  else if reader.input.isEmpty then
    ⟨.closed, written.taken, { reader with prompts := written.sink }⟩
  else
    let (line, rest) := cutLine reader.input
    ⟨answer line, written.taken, ⟨rest, written.sink⟩⟩

theorem length_read {prompt : String} {reader : StreamReader} {text : String}
    (h : (reader.read prompt).answer = .line text) :
    (reader.read prompt).rest.input.length < reader.input.length := by
  unfold read at h ⊢
  simp only at h ⊢
  split at h
  · cases h
  · rename_i hw
    split at h
    · cases h
    · rename_i he
      rw [if_neg hw, if_neg he]
      exact length_cutLine_rest_lt (by simpa using he)

instance : LineReader StreamReader where
  read := read
  linesLeft reader := reader.input.length
  linesLeft_read h := length_read h

end StreamReader

end JobShell
