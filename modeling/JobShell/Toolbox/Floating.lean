import JobShell.Toolbox.Number

/-!
Binary numbers with a floating point: reading them from a text and writing them in decimal or
hexadecimal.

A number is a mantissa of limited length and a power of two, so every decimal form of it can be
worked out exactly; rounding goes to the nearest and from the middle to the even neighbour.
-/

namespace JobShell.Toolbox

/-- The numbers of a format. -/
structure Precision where
  /-- The bits of the mantissa. -/
  bits : Nat
  /-- The least power of two. -/
  least : Int
  /-- Numbers from this power of two on are too great. -/
  top : Int
  /-- The bits before the point in hexadecimal form. -/
  leading : Nat

/-- The format of eight bytes. -/
def Precision.double : Precision := ⟨53, -1074, 1024, 1⟩

/-- The format of ten bytes. -/
def Precision.extended : Precision := ⟨64, -16445, 16384, 4⟩

inductive Magnitude
  /-- The mantissa times a power of two. -/
  | finite (mantissa : Nat) (exponent : Int)
  | infinite
  | undefined
  deriving Inhabited

structure Floating where
  isNegative : Bool := false
  magnitude : Magnitude
  deriving Inhabited

namespace Floating

def pow (base exponent : Nat) : Nat := Nat.pow base exponent

/-- The quotient rounded to the nearest whole number, from the middle to the even one. -/
def roundedQuotient (n d : Nat) : Nat :=
  let q := n / d
  let r := n % d
  if d < 2 * r || (2 * r == d && q % 2 == 1) then q + 1 else q

/-- A number times a power of two as a fraction. -/
def scaled (n : Nat) (exponent : Int) : Nat × Nat :=
  if 0 ≤ exponent then (n <<< exponent.toNat, 1) else (n, 1 <<< (-exponent).toNat)

/-- The least number of bits that a number needs. -/
def bitLength (n : Nat) : Nat := if n = 0 then 0 else n.log2 + 1

/-- The nearest number of a format to a fraction, and whether it is out of range. -/
def nearest (p : Precision) (n d : Nat) : Magnitude × Bool :=
  if n = 0 then (.finite 0 0, false)
  else
    let guess : Int := (bitLength n : Int) - (bitLength d : Int) - (p.bits : Int)
    let at_ := fun (e : Int) =>
      let (a, b) := scaled n (-e)
      roundedQuotient a (b * d)
    let e := max guess p.least
    let e := if bitLength (at_ e) > p.bits then e + 1 else e
    let m := at_ e
    let (a, b) := scaled n (-e)
    let isExact := a % (b * d) == 0
    if (bitLength m : Int) + e > p.top then (.infinite, true)
    else (.finite m e, bitLength m < p.bits && e == p.least && !isExact)

/-- The exponents beyond which a number is surely out of range. -/
def farAway : Int := 30000

/-- Reads the exponent behind a mark; without digits there is none. -/
def exponent (mark : Char) (text : Text) : Int × Text :=
  match text with
  | c :: rest =>
    if c.toLower == mark then
      let (isNegative, digits) := Scanned.sign rest
      let taken := digits.takeWhile (·.isDigit)
      if taken.isEmpty then (0, text)
      else
        let n : Int := min (Text.valueOf 10 taken : Int) (10 * farAway)
        (if isNegative then -n else n, digits.drop taken.length)
    else (0, text)
  | [] => (0, text)

/-- The digits around a point. -/
def digitsAround (isDigit : Char → Bool) (text : Text) : Text × Text × Text :=
  let whole := text.takeWhile isDigit
  match text.drop whole.length with
  | '.' :: rest =>
    let part := rest.takeWhile isDigit
    if whole.isEmpty && part.isEmpty then ([], [], text) else (whole, part, rest.drop part.length)
  | rest => (whole, [], rest)

/-- A fraction times a power of a base. -/
def power (base n : Nat) (exponent : Int) : Nat × Nat :=
  if 0 ≤ exponent then (n * pow base exponent.toNat, 1) else (n, pow base (-exponent).toNat)

/-- The number with these digits before and behind the point; far exponents are not worked out. -/
def ofDigits (p : Precision) (base pointBase : Nat) (whole part : Text) (exponent : Int) :
    Magnitude × Bool :=
  let n := Text.valueOf base (whole ++ part)
  let shift : Int := exponent - (if base = 16 then 4 * part.length else part.length : Nat)
  if n = 0 then (.finite 0 0, false)
  else if farAway < shift then (.infinite, true)
  else if shift < -farAway - ((whole ++ part).length : Int) then (.finite 0 0, true)
  else
    let (a, b) := power pointBase n shift
    nearest p a b

/-- The name at the front of a text, in either case. -/
def startsWith (name text : Text) : Bool := (text.take name.length).map Char.toLower == name

/-- A number at the front of a text: the number, whether it is out of range, and what is behind;
the whole text if there is none. -/
def ofFront (p : Precision) (text : Text) : Floating × Bool × Text :=
  let (isNegative, bare) := Scanned.sign (text.dropWhile Text.isBlank)
  let none := ({ magnitude := .finite 0 0 : Floating }, false, text)
  let named := fun (magnitude : Magnitude) (length : Nat) =>
    ({ isNegative, magnitude : Floating }, false, bare.drop length)
  let hex := match bare with
    | '0' :: x :: rest =>
      if x == 'x' || x == 'X' then
        let (whole, part, behind) := digitsAround Text.isHex rest
        if whole.isEmpty && part.isEmpty then Option.none else some (whole, part, behind)
      else Option.none
    | _ => Option.none
  match hex with
  | some (whole, part, behind) =>
    let (e, behind) := exponent 'p' behind
    let (magnitude, isOut) := ofDigits p 16 2 whole part e
    ({ isNegative, magnitude }, isOut, behind)
  | Option.none =>
    if startsWith "infinity".toList bare then named .infinite 8
    else if startsWith "inf".toList bare then named .infinite 3
    else if startsWith "nan".toList bare then
      let behind := bare.drop 3
      let inner := (behind.drop 1).takeWhile Text.isNameChar
      if behind.head? = some '(' && (behind.drop (inner.length + 1)).head? = some ')' then
        named .undefined (inner.length + 5)
      else named .undefined 3
    else
      let (whole, part, behind) := digitsAround (·.isDigit) bare
      if whole.isEmpty && part.isEmpty then none
      else
        let (e, behind) := exponent 'e' behind
        let (magnitude, isOut) := ofDigits p 10 10 whole part e
        ({ isNegative, magnitude }, isOut, behind)

/-- The whole number as decimal digits, at least so many. -/
def padded (n count : Nat) : Text :=
  let digits := Text.decimal n
  List.replicate (count - digits.length) '0' ++ digits

/-- Digits with a point before the last so many; `keepPoint` keeps a point with nothing behind. -/
def pointed (digits : Text) (places : Nat) (keepPoint : Bool) : Text :=
  let whole := digits.take (digits.length - places)
  if places = 0 then whole ++ (if keepPoint then ['.'] else [])
  else whole ++ '.' :: digits.drop (digits.length - places)

/-- The form with so many places and no exponent. -/
def fixed (mantissa : Nat) (exponent : Int) (places : Nat) (keepPoint : Bool) : Text :=
  let (n, d) := scaled mantissa exponent
  pointed (padded (roundedQuotient (n * pow 10 places) d) (places + 1)) places keepPoint

/-- The first so many digits of a fraction that is not zero, and the power of ten of the first. -/
def leadingDigits (n d count : Nat) : Nat × Int :=
  let guess : Int := ((Text.decimal n).length : Int) - ((Text.decimal d).length : Int)
  let at_ := fun (e : Int) =>
    let (a, b) := power 10 n ((count : Int) - 1 - e)
    roundedQuotient a (b * d)
  let isBelow := fun (e : Int) =>
    let (a, b) := power 10 1 e
    n * b < a * d
  let e := if isBelow guess then guess - 1 else guess
  if at_ e = pow 10 count then (pow 10 (count - 1), e + 1) else (at_ e, e)

/-- An exponent with its sign and at least so many digits. -/
def exponentText (mark : Char) (e : Int) (digits : Nat) : Text :=
  mark :: (if e < 0 then '-' else '+') :: padded e.natAbs digits

/-- The digits and the exponent of a number in the form with one digit before the point. -/
def scientificParts (mantissa : Nat) (exponent : Int) (places : Nat) : Nat × Int :=
  if mantissa = 0 then (0, 0)
  else
    let (n, d) := scaled mantissa exponent
    leadingDigits n d (places + 1)

def scientific (mantissa : Nat) (exponent : Int) (places : Nat) (keepPoint : Bool) : Text :=
  let (digits, e) := scientificParts mantissa exponent places
  pointed (padded digits (places + 1)) places keepPoint ++ exponentText 'e' e 2

/-- Without the zeros at the end of its places, and without a point that is left bare. -/
def trimmed (text : Text) : Text :=
  if text.contains '.' then
    let bare := (text.reverse.dropWhile (· == '0')).reverse
    if bare.getLast? = some '.' then bare.dropLast else bare
  else text

/-- The shorter of the two forms for so many digits. -/
def general (mantissa : Nat) (exponent : Int) (precision : Nat) (keepZeros : Bool) : Text :=
  let count := max precision 1
  let (digits, e) := scientificParts mantissa exponent (count - 1)
  if -4 ≤ e && e < (count : Int) then
    let text := fixed mantissa exponent ((count : Int) - 1 - e).toNat keepZeros
    if keepZeros then text else trimmed text
  else
    let text := pointed (padded digits count) (count - 1) keepZeros
    (if keepZeros then text else trimmed text) ++ exponentText 'e' e 2

def hexDigits (n count : Nat) : Text :=
  let digits := Nat.toDigits 16 n
  List.replicate (count - digits.length) '0' ++ digits

/-- The hexadecimal form; without a precision all digits are given. -/
def hexadecimal (p : Precision) (mantissa : Nat) (exponent : Int) (precision : Option Nat)
    (keepPoint : Bool) : Text :=
  let behindBits := p.bits - p.leading
  let places := (behindBits + 3) / 4
  let shift := p.bits - bitLength mantissa
  let low : Int := exponent - shift
  let full := if mantissa = 0 then 0 else (mantissa <<< shift) <<< (4 * places - behindBits)
  let e : Int := if mantissa = 0 then 0 else low + behindBits
  let kept := min (precision.getD places) places
  let rounded := roundedQuotient full (1 <<< (4 * (places - kept)))
  let whole := rounded >>> (4 * kept)
  let digits := hexDigits (rounded % (1 <<< (4 * kept))) kept
  let part := match precision with
    | some n => (if kept = 0 then [] else digits) ++ List.replicate (n - kept) '0'
    | none => (digits.reverse.dropWhile (· == '0')).reverse
  let body := Nat.toDigits 16 whole ++
    (if part.isEmpty then (if keepPoint then ['.'] else []) else '.' :: part)
  "0x".toList ++ body ++ exponentText 'p' e 1

end Floating

end JobShell.Toolbox
