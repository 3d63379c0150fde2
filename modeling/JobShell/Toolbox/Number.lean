import JobShell.Toolbox.Text

/-!
Whole numbers in texts.

A number is what can be read of the front of a text: blanks, a sign, and digits, of which a zero in
front may stand for base eight, and a zero and an `x` for base sixteen.  What does not fit into
sixty-four bits is brought to the nearest number that does.
-/

namespace JobShell.Toolbox

/-- A number at the front of a text. -/
structure Scanned where
  isNegative : Bool := false
  /-- The number without its sign. -/
  magnitude : Nat := 0
  /-- The text behind; the whole text if there is no number. -/
  rest : Text
  deriving Inhabited

namespace Scanned

def largest : Nat := 18446744073709551615

def largestSigned : Nat := 9223372036854775807

/-- The sign at the front. -/
def sign (text : Text) : Bool × Text :=
  match text with
  | '-' :: rest => (true, rest)
  | '+' :: rest => (false, rest)
  | _ => (false, text)

/-- The base in which a number without sign is written, and its digits with what is behind. -/
def based (text : Text) : Nat × Text :=
  match text with
  | '0' :: x :: d :: rest =>
    if (x == 'x' || x == 'X') && Text.isHex d then (16, d :: rest) else (8, text)
  | '0' :: _ => (8, text)
  | _ => (10, text)

def isDigitOf (base : Nat) (c : Char) : Bool := Text.isHex c && Text.digitValue c < base

/-- Reads the number at the front; without `anyBase` it is decimal. -/
def ofFront (anyBase : Bool) (text : Text) : Scanned :=
  let (isNegative, bare) := sign (text.dropWhile Text.isBlank)
  let (base, body) := if anyBase then based bare else (10, bare)
  let digits := body.takeWhile (isDigitOf base)
  if digits.isEmpty then { rest := text }
  else { isNegative, magnitude := Text.valueOf base digits, rest := body.drop digits.length }

/-- The number with its sign, as near as sixty-four bits come, and whether it did not fit. -/
def signed (s : Scanned) : Int × Bool :=
  if s.isNegative then
    if s.magnitude ≤ largestSigned + 1 then (-(s.magnitude : Int), false)
    else (-(largestSigned + 1 : Nat), true)
  else if s.magnitude ≤ largestSigned then (s.magnitude, false)
  else ((largestSigned : Nat), true)

/-- The number without sign; a negative one counts from the top. -/
def unsigned (s : Scanned) : Nat × Bool :=
  if largest < s.magnitude then (largest, true)
  else if s.isNegative && s.magnitude != 0 then (largest + 1 - s.magnitude, false)
  else (s.magnitude, false)

end Scanned

/-- The integer that a whole text is, with blanks around it. -/
def integer? (text : Text) : Option Int :=
  let s := Scanned.ofFront false text
  if s.rest.length = text.length || !s.rest.all Text.isBlank then none
  else some (if s.isNegative then -(s.magnitude : Int) else s.magnitude)

end JobShell.Toolbox
