import JobShell.Log.Record
import JobShell.Log.ValuePattern
import JobShell.Text.Blank
import JobShell.Text.ByteLength

/-!
The directives of a log filter.

A directive names a target, a span with a field in square brackets, and a threshold after an equals
sign; each may be missing.  `Directive.parse?` reads one from left to right, and each place between
its marks admits its own marks only.
-/

namespace JobShell.Log

/-- A field that a record must have. -/
structure Field where
  name : List Char
  /-- The field must also have a certain value, which no record's field has. -/
  hasValue : Bool
  deriving DecidableEq, Repr

/-- Records of the target are shown up to the threshold, zero showing none. -/
structure Directive where
  /-- No target stands for every record. -/
  target : Option (List Char) := none
  /-- The directive speaks only of what happens inside a span, and no record does. -/
  withinSpan : Bool := false
  field : Option Field := none
  threshold : Nat
  deriving DecidableEq, Repr

namespace Directive

def thresholdNames : List (String × Nat) :=
  [("off", 0), ("error", 1), ("warn", 2), ("info", 3), ("debug", 4), ("trace", 5)]

/-- A number in decimal digits with an optional plus sign. -/
def number? (cs : List Char) : Option Nat :=
  let digits := match cs with
    | '+' :: rest => rest
    | _ => cs
  if digits.isEmpty || digits.any (!·.isDigit) then none
  else some (digits.foldl (fun n c => 10 * n + (c.toNat - '0'.toNat)) 0)

/-- A threshold by name, in either case, or by number. -/
def threshold? (cs : List Char) : Option Nat :=
  match number? cs with
  | some n => if n ≤ 5 then some n else none
  | none => (thresholdNames.find? fun entry => entry.1 == (String.ofList cs).toLower).map (·.2)

/-- The threshold after an equals sign; nothing there shows every level. -/
def levelPart? (cs : List Char) : Option Nat :=
  if cs.isEmpty then some 5 else threshold? cs

/-- A decimal fraction with an optional exponent, or the name of a value that has none. -/
def isFraction (cs : List Char) : Bool :=
  let whole := cs.takeWhile Char.isDigit
  let rest := cs.drop whole.length
  let places := match rest with
    | '.' :: more => more.takeWhile Char.isDigit
    | _ => []
  let rest := match rest with
    | '.' :: more => more.drop places.length
    | _ => rest
  let exponent := match rest with
    | [] => true
    | e :: '+' :: digits | e :: '-' :: digits | e :: digits =>
      e.toLower == 'e' && !digits.isEmpty && digits.all Char.isDigit
  ["inf", "infinity", "nan"].contains (String.ofList cs).toLower ||
    (!(whole.isEmpty && places.isEmpty) && exponent)

/-- A field's value is a number or a regular expression; of the numbers only those with a plus sign
are no regular expressions. -/
def isValue : List Char → Bool
  | '+' :: rest => isFraction rest
  | cs => ValuePattern.isWellFormed cs

/-- A field is named, and its value may follow an equals sign. -/
def field? (cs : List Char) : Option Field :=
  if cs.isEmpty then none
  else
    match cs.splitOn '=' with
    | name :: value :: _ => if isValue value then some ⟨name, true⟩ else none
    | _ => some ⟨cs, false⟩

/-- A directive may begin with a letter, a digit or one of three marks. -/
def beginsName (c : Char) : Bool :=
  c == '-' || c == ':' || c == '_' || Text.isAlphanumeric c

/-- The place between two marks at which a reading stands; those with a text of their own keep the
byte at which it begins. -/
inductive Place
  | start
  | name (from_ : Nat)
  | span (from_ : Nat)
  | field (from_ : Nat)
  | afterField
  | afterSpan
  | level (from_ : Nat)

/-- The place after the character at byte `here`, and what the directive has come to.  The text from
which the parts are cut is `text`. -/
def step? (text : List Char) (here : Nat) (c : Char) :
    Directive × Place → Option (Directive × Place)
  | (d, .start) =>
    if c == '[' then some (d, .span (here + 1))
    else if beginsName c then some (d, .name here)
    else none
  | (d, .name b) =>
    if c == '=' || c == '[' then
      (Text.sliceBytes? b here text).map fun target =>
        ({ d with target := some target },
          if c == '=' then .level (here + 1) else .span (here + 1))
    else some (d, .name b)
  | (d, .span b) =>
    if c == ']' then some ({ d with withinSpan := true }, .afterSpan)
    else if c == '\x7b' then some ({ d with withinSpan := b != here }, .field (here + 1))
    else some (d, .span b)
  | (d, .field b) =>
    if c == '\x7d' then
      ((Text.sliceBytes? b here text).bind field?).map fun field =>
        ({ d with field := some field }, .afterField)
    else some (d, .field b)
  | (d, .afterField) => if c == ']' then some (d, .afterSpan) else none
  | (d, .afterSpan) => if c == '=' then some (d, .level (here + 1)) else none
  | (d, .level b) => some (d, .level b)

/-- The directive at the end of its text, which may come in three of the places. -/
def finish? (text : List Char) : Directive × Place → Option Directive
  | (d, .name b) =>
    (Text.dropBytes? b text).map fun name =>
      match threshold? name with
      | some threshold => { d with threshold }
      | none => { d with target := some name }
  | (d, .level b) =>
    ((Text.dropBytes? b text).bind levelPart?).map fun threshold => { d with threshold }
  | (d, .afterSpan) => some d
  | _ => none

/-- The steps over the characters from byte `here` on. -/
def steps? (text : List Char) (here : Nat) (stand : Directive × Place) :
    List Char → Option Directive
  | [] => finish? text stand
  | c :: cs => (step? text here c stand).bind fun stand => steps? text (here + c.utf8Size) stand cs

/-- One directive.  Its marks are looked for without the blanks around it, but the parts are cut
from the text as it stands, at the same bytes. -/
def parse? (text : List Char) : Option Directive :=
  steps? text 0 (⟨none, false, none, 5⟩, .start) (Text.trim text)

/-- The directive can decide on records. -/
def isPlain (d : Directive) : Bool := !d.withinSpan && d.field.all (!·.hasValue)

/-- The directive speaks of records with this target; their only field is the message. -/
def applies (d : Directive) (target : List Char) : Bool :=
  d.isPlain && (d.target.getD []).isPrefixOf target &&
    d.field.all (·.name == "message".toList)

/-- How specific a directive is: the longer target first, then the one that names a field. -/
def isAtLeast (d best : Directive) : Bool :=
  let length := fun (d : Directive) => d.target.elim 0 (·.length + 1)
  let fields := fun (d : Directive) => d.field.elim 0 fun _ => 1
  length best < length d || (length best == length d && fields best ≤ fields d)

end Directive

end JobShell.Log
