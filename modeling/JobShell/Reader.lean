import JobShell.Failure
import JobShell.Text.Bytes

/-!
Sources of command lines.

A reader shows a prompt and gives one line, the end of the input, or a failure.  A reader holds
finitely many lines: each line it gives leaves it with fewer (`LineReader.linesLeft_read`), so a
loop that only goes on after a line ends.
-/

namespace JobShell

inductive ReadAnswer
  /-- A line without its terminator. -/
  | line (text : String)
  /-- The input is closed. -/
  | closed
  | failed (error : ShellError)
  deriving DecidableEq, Repr

/-- One read: the answer, what was shown of the prompt, and the reader left. -/
structure Reading (ρ : Type) where
  answer : ReadAnswer
  shown : Bytes
  rest : ρ

class LineReader (ρ : Type) where
  read : String → ρ → Reading ρ
  /-- A bound on the number of lines that are still to come. -/
  linesLeft : ρ → Nat
  linesLeft_read : ∀ {prompt : String} {reader : ρ} {text : String},
    (read prompt reader).answer = .line text →
      linesLeft (read prompt reader).rest < linesLeft reader

end JobShell
