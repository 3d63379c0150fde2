import JobShell.Toolbox.Directive
import JobShell.Toolbox.Echo

/-!
Writing arguments by a format.

The format is used again while it takes arguments and some are left; missing arguments are empty
texts and zeros.  A fault in the format ends the program, one in a number is told and makes the
status a failure.
-/

namespace JobShell.Toolbox.Format

open Machine Escape

/-- How far the writing has come. -/
structure Progress where
  out : Text := []
  arguments : List Text
  /-- Some argument was no number. -/
  hasFailed : Bool := false

/-- How the use of a format ends. -/
inductive Outcome
  | goesOn (progress : Progress)
  /-- An escape has ended the output. -/
  | stops (progress : Progress)
  | fails (progress : Progress) (fault : Text)

/-- Writes what there is and complains behind it. -/
def grumble (call : Call) (progress : Progress) (text : Text) : Doing Progress := do
  let _ ← write 1 progress.out
  complain (call.message text)
  pure { progress with out := [] }

/-- Complains about what is behind a number, if anything is. -/
def verified (call : Call) (progress : Progress) (argument rest : Text) (isOut : Bool) :
    Doing Progress :=
  if isOut then do
    let after ← grumble call progress
      (Text.told argument ++ ": ".toList ++ Errno.range.wording.toList)
    pure { after with hasFailed := true }
  else if rest.isEmpty then pure progress
  else do
    let fault := if rest.length = argument.length then ": expected a numeric value"
      else ": value not completely converted"
    let after ← grumble call progress (Text.told argument ++ fault.toList)
    pure { after with hasFailed := true }

/-- The number of a character behind a quotation mark; more characters are warned of. -/
def quotedCharacter? (argument : Text) : Option (Char × Text) :=
  match argument with
  | q :: c :: rest => if q == '\'' || q == '"' then some (c, rest) else none
  | _ => none

def numberOf {α : Type} (call : Call) (progress : Progress) (argument : Text) (ofNat : Nat → α)
    (scan : Text → α × Bool × Text) : Doing (α × Progress) :=
  match quotedCharacter? argument with
  | some (c, []) => pure (ofNat c.toNat, progress)
  | some (c, rest) => do
    let after ← grumble call progress ("warning: ".toList ++ rest ++
      ": character(s) following character constant have been ignored".toList)
    pure (ofNat c.toNat, after)
  | none => do
    let (value, isOut, rest) := scan argument
    let after ← verified call progress argument rest isOut
    pure (value, after)

def signedOf (call : Call) (progress : Progress) (argument : Text) : Doing (Int × Progress) :=
  numberOf call progress argument (fun n => (n : Int)) fun text =>
    let s := Scanned.ofFront true text
    (s.signed.1, s.signed.2, s.rest)

def unsignedOf (call : Call) (progress : Progress) (argument : Text) : Doing (Nat × Progress) :=
  numberOf call progress argument id fun text =>
    let s := Scanned.ofFront true text
    (s.unsigned.1, s.unsigned.2, s.rest)

def floatingOf (call : Call) (progress : Progress) (argument : Text) :
    Doing (Floating × Progress) :=
  numberOf call progress argument (fun n => { magnitude := .finite n 0 })
    (Floating.ofFront .extended)

/-- A character that has no place in this character set. -/
def foreign (n : Nat) : Text :=
  if n < 128 then [Char.ofNat n]
  else
    let digits := (Nat.toDigits 16 n).map Char.toUpper
    let (letter, count) := if n < 65536 then ('u', 4) else ('U', 8)
    '\\' :: letter :: List.replicate (count - digits.length) '0' ++ digits

/-- What an escape writes. -/
inductive Escaped
  | shown (text rest : Text)
  | stops
  | fails (fault : Text)

def missingDigits : Text := "missing hexadecimal number in escape".toList

/-- The escape behind a backslash; with `zeroFirst` an octal one may have a zero in front. -/
def escape (zeroFirst : Bool) (text : Text) : Escaped :=
  match text with
  | [] => .shown ['\\'] []
  | c :: rest =>
    if c == 'x' then
      let (digits, behind) := digitsFront Text.isHex 2 rest
      if digits.isEmpty then .fails missingDigits
      else .shown [byte (Text.valueOf 16 digits)] behind
    else if Text.isOctal c then
      let (d, behind) := octal (if zeroFirst && c == '0' then rest else text)
      .shown [d] behind
    else if c == '"' then .shown ['"'] rest
    else if c == 'c' then .stops
    else if c == 'e' then .shown ['\x1b'] rest
    else if c == 'u' || c == 'U' then
      let count := if c == 'u' then 4 else 8
      let (digits, behind) := digitsFront Text.isHex count rest
      let n := Text.valueOf 16 digits
      if digits.length < count then .fails missingDigits
      else if (n ≤ 0x9f && n != 0x24 && n != 0x40 && n != 0x60) || (0xd800 ≤ n && n ≤ 0xdfff) then
        .fails ("invalid universal character name \\".toList ++ c :: digits.map Char.toLower)
      else .shown (foreign n) behind
    else match letter? c with
      | some d => .shown [d] rest
      | none => .shown ['\\', c] rest

/-- A text with its escapes carried out. -/
def escapedText : Nat → Text → Text → Text × Option Escaped
  | 0, done, _ => (done, none)
  | _ + 1, done, [] => (done, none)
  | fuel + 1, done, '\\' :: rest =>
    match escape true rest with
    | .shown text rest => escapedText fuel (done ++ text) rest
    | other => (done, some other)
  | fuel + 1, done, c :: rest => escapedText fuel (done ++ [c]) rest

/-- Letters that cannot stand behind a flag. -/
def excluded : Char → Text
  | 'I' | '\'' => "aAceEosxX".toList
  | '#' => "cdisu".toList
  | '0' => "cs".toList
  | _ => []

def letters : Text := "aAcdeEfFgGiosuxX".toList

def isFlag (c : Char) : Bool := "I'-+ #0".toList.contains c

/-- A field that is given by a number in the format or by an argument. -/
inductive Field
  | none
  | fixed (n : Nat)
  | argument

/-- The field at the front. -/
def field (text : Text) : Field × Text :=
  match text with
  | '*' :: rest => (.argument, rest)
  | text =>
    let digits := text.takeWhile (·.isDigit)
    (if digits.isEmpty then .none else .fixed (Text.valueOf 10 digits), text.drop digits.length)

/-- The greatest width and precision. -/
def maxField : Int := 2147483647

def take (progress : Progress) : Text × Progress :=
  (progress.arguments.head?.getD [], { progress with arguments := progress.arguments.drop 1 })

/-- The value of a field; `what` names it in a complaint. -/
def fieldValue (call : Call) (what : String) (field : Field) (progress : Progress) :
    Doing (Except (Progress × Text) (Option Int × Progress)) :=
  match field with
  | .none => pure (.ok (none, progress))
  | .fixed n => pure (.ok (some n, progress))
  | .argument =>
    match progress.arguments with
    | [] => pure (.ok (some 0, progress))
    | argument :: arguments => do
      let (n, after) ← signedOf call { progress with arguments } argument
      if maxField < n || (what == "width" && n < -maxField - 1) then
        let kind := if what == "width" then "invalid field width: " else "invalid precision: "
        pure (.error (after, kind.toList ++ Text.told argument))
      else pure (.ok (some n, after))

/-- Lays out the next argument by a directive. -/
def convert (call : Call) (d : Directive) (letter : Char) (progress : Progress) :
    Doing Progress := do
  let (argument, progress) := take progress
  let shown := fun (text : Text) (p : Progress) => { p with out := p.out ++ text }
  match letter with
  | 's' => pure (shown (d.ofText argument) progress)
  | 'c' => pure (shown (d.padded [argument.head?.getD '\x00']) progress)
  | 'd' | 'i' => do
    let (n, after) ← signedOf call progress argument
    pure (shown (d.ofSigned n) after)
  | 'o' | 'u' | 'x' | 'X' => do
    let (n, after) ← unsignedOf call progress argument
    pure (shown (d.ofUnsigned letter n) after)
  | _ => do
    let (x, after) ← floatingOf call progress argument
    pure (shown (d.ofFloating .extended letter x) after)

/-- A directive behind its percent sign, and what is behind it. -/
def directive (call : Call) (text : Text) (progress : Progress) :
    Doing (Except (Progress × Text) (Text × Progress)) := do
  let flags := text.takeWhile isFlag
  let (width, behindWidth) := field (text.drop flags.length)
  let (precision, behind, hasPrecision) := match behindWidth with
    | '.' :: rest =>
      let (precision, behind) := field rest
      (match precision with
        | .none => Field.fixed 0
        | other => other, behind, true)
    | rest => (Field.none, rest, false)
  match ← fieldValue call "width" width progress with
  | .error e => pure (.error e)
  | .ok (w, progress) =>
    match ← fieldValue call "precision" precision progress with
    | .error e => pure (.error e)
    | .ok (p, progress) =>
      let behind := behind.dropWhile fun c => "lLhjtz".toList.contains c
      let letter := behind.head?.getD '\x00'
      let isAllowed := letters.contains letter && !(flags.any fun f => (excluded f).contains letter)
        && !(hasPrecision && letter == 'c')
      if !isAllowed then
        let shown := '%' :: text.take (text.length - behind.length) ++ behind.take 1
        pure (.error (progress, shown ++ ": invalid conversion specification".toList))
      else
        let d := ((({} : Directive).withFlags flags).withWidth (w.getD 0)).withPrecision (p.getD (-1))
        let after ← convert call d letter progress
        pure (.ok (behind.drop 1, after))

/-- Uses the format once. -/
def once (call : Call) : Nat → Text → Progress → Doing Outcome
  | 0, _, progress => pure (.goesOn progress)
  | _ + 1, [], progress => pure (.goesOn progress)
  | fuel + 1, '%' :: c :: rest, progress =>
    if c == '%' then once call fuel rest { progress with out := progress.out ++ ['%'] }
    else if c == 'b' then
      match progress.arguments with
      | [] => once call fuel rest progress
      | argument :: arguments =>
        let (text, fault) := escapedText (argument.length + 1) [] argument
        let after := { progress with arguments, out := progress.out ++ text }
        match fault with
        | none => once call fuel rest after
        | some (.fails fault) => pure (.fails after fault)
        | some _ => pure (.stops after)
    else if c == 'q' then
      match progress.arguments with
      | [] => once call fuel rest progress
      | argument :: arguments =>
        once call fuel rest { progress with arguments, out := progress.out ++ Text.word argument }
    else do
      match ← directive call (c :: rest) progress with
      | .error (after, fault) => pure (.fails after fault)
      | .ok (rest, after) => once call fuel rest after
  | _ + 1, ['%'], progress =>
    pure (.fails progress "%: invalid conversion specification".toList)
  | fuel + 1, '\\' :: rest, progress =>
    match escape false rest with
    | .shown text rest => once call fuel rest { progress with out := progress.out ++ text }
    | .stops => pure (.stops progress)
    | .fails fault => pure (.fails progress fault)
  | fuel + 1, c :: rest, progress =>
    once call fuel rest { progress with out := progress.out ++ [c] }

def ending (call : Call) (progress : Progress) : Doing Nat :=
  call.finish progress.out (if progress.hasFailed then 1 else 0)

/-- Uses the format while it takes arguments and some are left. -/
def repeated (call : Call) (format : Text) : Nat → Progress → Doing Nat
  | 0, progress => ending call progress
  | rounds + 1, progress => do
    match ← once call (format.length + 1) format progress with
    | .stops after => call.finish after.out 0
    | .fails after fault => do
      let _ ← grumble call after fault
      pure 1
    | .goesOn after =>
      match after.arguments with
      | [] => ending call after
      | next :: _ =>
        if after.arguments.length < progress.arguments.length then repeated call format rounds after
        else do
          let told ← grumble call after
            ("warning: ignoring excess arguments, starting with ".toList ++ Text.told next)
          ending call told

def run (call : Call) : Doing Nat :=
  let arguments := match call.arguments with
    | ['-', '-'] :: rest => rest
    | arguments => arguments
  match arguments with
  | [] => call.misuse "missing operand".toList
  | format :: rest => repeated call format (rest.length + 1) { arguments := rest }

end JobShell.Toolbox.Format
