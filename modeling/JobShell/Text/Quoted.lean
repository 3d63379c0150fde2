import JobShell.Text.Printable

/-!
The quoted form of a text, in which every character that would not show is escaped.
-/

namespace JobShell.Text

/-- The digits of a number in base sixteen, in lower case and without leading zeros. -/
def hexDigits (n : Nat) : List Char := Nat.toDigits 16 n

/-- A code point written with braces. -/
def escapedCodePoint (c : Char) : List Char :=
  '\\' :: 'u' :: '\x7b' :: hexDigits c.toNat ++ ['\x7d']

/-- The tab, the line ends, the null character, the double quote and the backslash have short
escapes; a character that attaches to another or does not show is written by its code point. -/
def escaped (c : Char) : List Char :=
  match c with
  | '\x00' => ['\\', '0']
  | '\t' => ['\\', 't']
  | '\n' => ['\\', 'n']
  | '\r' => ['\\', 'r']
  | '"' => ['\\', '"']
  | '\\' => ['\\', '\\']
  | c => if isAttaching c || !isPrintable c then escapedCodePoint c else [c]

/-- A text between double quotes, character by character escaped. -/
def quoted (s : String) : String :=
  String.ofList ('"' :: s.toList.flatMap escaped ++ ['"'])

end JobShell.Text
