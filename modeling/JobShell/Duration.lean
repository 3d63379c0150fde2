/-!
Spans of time and their text in tenths of a second.

A span is shown as the binary64 number nearest to its seconds plus its nanoseconds over 10^9, and
that number is rounded to tenths from its exact value, a tie going to the even tenth.
-/

namespace JobShell

/-- The quotient rounded to the nearest natural number, a tie to the even one. -/
def roundHalfEven (num den : Nat) : Nat :=
  let q := num / den
  let r := num % den
  if 2 * r < den then q
  else if den < 2 * r then q + 1
  else if q % 2 = 0 then q else q + 1

/-- A number rounded to its first 53 binary digits, a tie to the even neighbour. -/
def roundTo53Bits (n : Nat) : Nat :=
  let excess := n.log2 + 1 - 53
  roundHalfEven n (1 <<< excess) <<< excess

/-- A span of time. -/
structure Duration where
  nanoseconds : Nat
  deriving DecidableEq, Repr, Inhabited

namespace Duration

def nanosPerSecond : Nat := 1000000000

/-- The binary digits kept behind the point; enough that each rounding below is of the exact
value or, with the last digit set for a remainder, on the same side of every tie. -/
def scale : Nat := 121

/-- The binary64 number of seconds, as a multiple of 2^-121. -/
def scaledSeconds (d : Duration) : Nat :=
  let whole := roundTo53Bits (d.nanoseconds / nanosPerSecond)
  let numerator := (d.nanoseconds % nanosPerSecond) <<< (scale - 1)
  let sticky := if numerator % nanosPerSecond = 0 then 0 else 1
  let fraction := roundTo53Bits (2 * (numerator / nanosPerSecond) + sticky)
  roundTo53Bits (whole <<< scale + fraction)

def tenths (d : Duration) : Nat := roundHalfEven (d.scaledSeconds * 10) (1 <<< scale)

/-- Decimal digits, a point and one digit. -/
def text (d : Duration) : String := s!"{d.tenths / 10}.{d.tenths % 10}"

end Duration

end JobShell
