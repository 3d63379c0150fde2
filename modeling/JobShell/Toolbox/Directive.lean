import JobShell.Toolbox.Floating

/-!
Directives of a format: how a number or a text is laid out.
-/

namespace JobShell.Toolbox

/-- What a directive says besides its letter. -/
structure Directive where
  /-- To the left side of its width. -/
  leftward : Bool := false
  /-- A sign in any case. -/
  signs : Bool := false
  /-- A blank in the place of a plus sign. -/
  blank : Bool := false
  /-- Filled up with zeros. -/
  zeros : Bool := false
  /-- The other form of the letter. -/
  alternate : Bool := false
  width : Nat := 0
  precision : Option Nat := none

namespace Directive

/-- The directive with the flags of a text. -/
def withFlags (d : Directive) (flags : Text) : Directive :=
  { d with
    leftward := d.leftward || flags.contains '-'
    signs := d.signs || flags.contains '+'
    blank := d.blank || flags.contains ' '
    zeros := d.zeros || flags.contains '0'
    alternate := d.alternate || flags.contains '#' }

/-- The directive with a width; a negative one asks for the left side. -/
def withWidth (d : Directive) (n : Int) : Directive :=
  { d with leftward := d.leftward || n < 0, width := n.natAbs }

/-- The directive with a precision; a negative one is none. -/
def withPrecision (d : Directive) (n : Int) : Directive :=
  { d with precision := if n < 0 then none else some n.toNat }

/-- Fills a text up to the width with blanks. -/
def padded (d : Directive) (text : Text) : Text :=
  let blanks := List.replicate (d.width - text.length) ' '
  if d.leftward then text ++ blanks else blanks ++ text

/-- Fills a number up to the width, between its sign and its digits if with zeros. -/
def paddedNumber (d : Directive) (front digits : Text) (byZeros : Bool) : Text :=
  if byZeros && !d.leftward then
    front ++ List.replicate (d.width - (front.length + digits.length)) '0' ++ digits
  else d.padded (front ++ digits)

def signOf (d : Directive) (isNegative : Bool) : Text :=
  if isNegative then ['-'] else if d.signs then ['+'] else if d.blank then [' '] else []

/-- Digits in at least the number that the precision asks for; with a precision of zero a zero has
none. -/
def digits (d : Directive) (base n : Nat) : Text :=
  let plain := if n = 0 && d.precision = some 0 then [] else Nat.toDigits base n
  List.replicate (d.precision.getD 0 - plain.length) '0' ++ plain

def ofText (d : Directive) (text : Text) : Text :=
  d.padded (match d.precision with
    | some n => text.take n
    | none => text)

def ofSigned (d : Directive) (n : Int) : Text :=
  d.paddedNumber (d.signOf (n < 0)) (d.digits 10 n.natAbs) (d.zeros && d.precision.isNone)

/-- A number without sign in the base of a letter. -/
def ofUnsigned (d : Directive) (letter : Char) (n : Nat) : Text :=
  let byZeros := d.zeros && d.precision.isNone
  match letter with
  | 'o' =>
    let plain := d.digits 8 n
    let shown := if d.alternate && plain.head? != some '0' then '0' :: plain else plain
    d.paddedNumber [] shown byZeros
  | 'x' =>
    d.paddedNumber (if d.alternate && n != 0 then ['0', 'x'] else []) (d.digits 16 n) byZeros
  | 'X' =>
    d.paddedNumber (if d.alternate && n != 0 then ['0', 'X'] else [])
      ((d.digits 16 n).map Char.toUpper) byZeros
  | _ => d.paddedNumber [] (d.digits 10 n) byZeros

/-- The places of a number unless a precision says otherwise. -/
def usualPlaces : Nat := 6

/-- A floating number in the form of a letter. -/
def ofFloating (d : Directive) (p : Precision) (letter : Char) (x : Floating) : Text :=
  let upper := fun (text : Text) => if letter.isUpper then text.map Char.toUpper else text
  let sign := d.signOf x.isNegative
  match x.magnitude with
  | .infinite => d.padded (sign ++ upper "inf".toList)
  | .undefined => d.padded (sign ++ upper "nan".toList)
  | .finite m e =>
    let places := d.precision.getD usualPlaces
    match letter.toLower with
    | 'f' => d.paddedNumber sign (Floating.fixed m e places d.alternate) d.zeros
    | 'e' => d.paddedNumber sign (upper (Floating.scientific m e places d.alternate)) d.zeros
    | 'g' => d.paddedNumber sign (upper (Floating.general m e places d.alternate)) d.zeros
    | _ =>
      let text := Floating.hexadecimal p m e d.precision d.alternate
      d.paddedNumber (sign ++ upper (text.take 2)) (upper (text.drop 2)) d.zeros

end Directive

end JobShell.Toolbox
