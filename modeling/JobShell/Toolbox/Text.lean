import JobShell.Text.Bytes

/-!
Texts as the programs of the system handle them: byte by byte, each byte being the character with
its number.

`named` and `told` are the two ways in which a message sets off a text: as a word of a command line,
so that it can be typed again, and between apostrophes with escapes.
-/

namespace JobShell.Toolbox

/-- A text whose characters stand for bytes. -/
abbrev Text := List Char

namespace Text

def ofString (s : String) : Text := Bytes.toLatin (Bytes.ofString s)

def isOctal (c : Char) : Bool := '0' ≤ c && c ≤ '7'

def isHex (c : Char) : Bool := c.isDigit || ('a' ≤ c && c ≤ 'f') || ('A' ≤ c && c ≤ 'F')

def digitValue (c : Char) : Nat :=
  if c.isDigit then c.toNat - '0'.toNat else c.toLower.toNat - 'a'.toNat + 10

/-- The number that digits spell in a base. -/
def valueOf (base : Nat) (digits : Text) : Nat :=
  digits.foldl (fun n c => base * n + digitValue c) 0

/-- White space of the basic character set. -/
def isBlank (c : Char) : Bool := c == ' ' || ('\t' ≤ c && c ≤ '\r')

def isNameStart (c : Char) : Bool := c.isAlpha || c == '_'

def isNameChar (c : Char) : Bool := c.isAlphanum || c == '_'

/-- A letter or underscore, and then letters, digits and underscores. -/
def isName (text : Text) : Bool := text.head?.any isNameStart && text.all isNameChar

/-- The digits of a decimal number. -/
def number? (text : Text) : Option Nat :=
  if text.isEmpty || text.any (!·.isDigit) then none else some (valueOf 10 text)

def decimal (n : Nat) : Text := (toString n).toList

def ofInt (n : Int) : Text := (toString n).toList

/-- A visible character of the basic set, or the blank. -/
def isPrintable (c : Char) : Bool := ' ' ≤ c && c ≤ '~'

/-- An octal number of three digits. -/
def octal (c : Char) : Text :=
  let n := c.toNat
  [n / 64, n / 8 % 8, n % 8].map fun d => Char.ofNat ('0'.toNat + d)

/-- The letter of an escape for a control character. -/
def escapeLetter? (c : Char) : Option Char :=
  match c.toNat with
  | 7 => some 'a'
  | 8 => some 'b'
  | 9 => some 't'
  | 10 => some 'n'
  | 11 => some 'v'
  | 12 => some 'f'
  | 13 => some 'r'
  | _ => none

/-- An escape for a character that is not printable. -/
def escaped (c : Char) : Text :=
  match escapeLetter? c with
  | some letter => ['\\', letter]
  | none => '\\' :: octal c

/-- A text between apostrophes; apostrophes and backslashes in it have a backslash before them, and
what is not printable is escaped. -/
def told (text : Text) : Text :=
  '\'' :: (text.flatMap fun c =>
    if c == '\'' || c == '\\' then ['\\', c] else if isPrintable c then [c] else escaped c) ++ ['\'']

/-- Characters that mean the same between quotation marks as between apostrophes. -/
def isHarmless (c : Char) : Bool :=
  c.isAlphanum || "%+,-./:]_\x7b\x7d '#~".toList.contains c

/-- The text between apostrophes; what is not printable stands in a dollar quotation of its own. -/
def requoted (inEscape : Bool) : Text → Text
  | [] => ['\'']
  | c :: rest =>
    if isPrintable c then
      let front := if inEscape then ['\'', '\''] else []
      let shown := if c == '\'' then ['\'', '\\', '\'', '\''] else [c]
      front ++ shown ++ requoted false rest
    else
      let front := if inEscape then [] else ['\'', '$', '\'']
      front ++ escaped c ++ requoted true rest

/-- A text as a quoted word. -/
def named (text : Text) : Text :=
  let isPlainHash := fun (k : Nat) (c : Char) => !(k > 0 && (c == '#' || c == '~'))
  let harmless := text.zipIdx.all fun p => isHarmless p.1 && isPlainHash p.2 p.1
  if text.contains '\'' && harmless then '"' :: text ++ ['"'] else '\'' :: requoted false text

/-- Characters that need no quotation in a word. -/
def isBare (c : Char) : Bool := c.isAlphanum || "%+,-./:@]_".toList.contains c

/-- A text as a word, quoted if it has to be. -/
def word (text : Text) : Text :=
  let isBareAt := fun (p : Char × Nat) =>
    isBare p.1 || (p.2 > 0 && (p.1 == '#' || p.1 == '~'))
      || (text.length > 1 && (p.1 == '\x7b' || p.1 == '\x7d'))
  if !text.isEmpty && text.zipIdx.all isBareAt then text else named text

end Text

end JobShell.Toolbox
