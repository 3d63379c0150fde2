import JobShell.Toolbox.Call

/-!
The programs that write their arguments, and escapes in what is written.

An escape is a backslash and a letter or digits; `\c` ends all output.
-/

namespace JobShell.Toolbox

namespace Escape

/-- The character of a one-letter escape that all programs know. -/
def letter? : Char → Option Char
  | 'a' => some '\x07'
  | 'b' => some '\x08'
  | 'f' => some '\x0c'
  | 'n' => some '\n'
  | 'r' => some '\r'
  | 't' => some '\t'
  | 'v' => some '\x0b'
  | '\\' => some '\\'
  | _ => none

/-- The byte with a number. -/
def byte (n : Nat) : Char := Char.ofNat (n % 256)

/-- At most so many digits at the front, and what is behind them. -/
def digitsFront (isDigit : Char → Bool) (limit : Nat) (text : Text) : Text × Text :=
  let digits := (text.take limit).takeWhile isDigit
  (digits, text.drop digits.length)

/-- The byte of an octal escape, of which at most three digits count. -/
def octal (text : Text) : Char × Text :=
  let (digits, rest) := digitsFront Text.isOctal 3 text
  (byte (Text.valueOf 8 digits), rest)

end Escape

namespace Echo

open Escape

/-- A text of the installed program with its escapes carried out, and whether it ends the output. -/
def unescaped : Nat → Text → Text × Bool
  | 0, _ => ([], false)
  | _ + 1, [] => ([], false)
  | fuel + 1, '\\' :: c :: rest =>
    let go := fun (shown : Text) (rest : Text) =>
      let (more, stop) := unescaped fuel rest
      (shown ++ more, stop)
    if c == 'c' then ([], true)
    else match letter? c with
      | some d => go [d] rest
      | none =>
        if c == 'e' then go ['\x1b'] rest
        else if c == 'x' then
          let (digits, behind) := digitsFront Text.isHex 2 rest
          if digits.isEmpty then go ['\\', 'x'] rest
          else go [byte (Text.valueOf 16 digits)] behind
        else if c == '0' then
          let (d, behind) := octal rest
          go [d] behind
        else if Text.isOctal c then
          let (d, behind) := octal (c :: rest)
          go [d] behind
        else go ['\\', c] rest
  | fuel + 1, c :: rest =>
    let (more, stop) := unescaped fuel rest
    (c :: more, stop)

def isOption : Text → Bool
  | '-' :: c :: letters => (c :: letters).all fun c => c == 'n' || c == 'e' || c == 'E'
  | _ => false

/-- Writes the arguments with blanks between them and a line end. -/
def run (call : Call) : Machine.Doing Nat :=
  let options := (call.arguments.takeWhile isOption).flatMap (·.drop 1)
  let text := List.intercalate [' '] (call.arguments.dropWhile isOption)
  let escapes := (options.filter (· != 'n')).getLast? == some 'e'
  let (shown, stop) := if escapes then unescaped (text.length + 1) text else (text, false)
  call.finish (if stop || options.contains 'n' then shown else shown ++ ['\n']) 0

end Echo

end JobShell.Toolbox
