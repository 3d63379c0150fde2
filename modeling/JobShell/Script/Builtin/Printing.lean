import JobShell.Script.Builtin.Reply
import JobShell.Toolbox.Directive
import JobShell.Toolbox.Echo

/-!
The shell's own commands that write their arguments.

A backslash that starts no escape stands for itself.  A format is used again while it takes
arguments and some are left; a directive that does not exist is an error, behind which what has been
laid out is still written.
-/

namespace JobShell.Script.Printing

open Toolbox

/-- What the text behind a backslash stands for, and what follows. -/
def escape (text : Text) : Char × Text :=
  match text with
  | [] => ('\\', [])
  | c :: rest =>
    if Text.isOctal c then Escape.octal text
    else if c == 'e' then ('\x1b', rest)
    else match Escape.letter? c with
      | some d => (d, rest)
      | none => ('\\', text)

/-- A text with its escapes carried out, and whether one of them ends all output. -/
def unescaped : Nat → Text → Text × Bool
  | 0, _ => ([], false)
  | _ + 1, [] => ([], false)
  | _ + 1, '\\' :: 'c' :: _ => ([], true)
  | fuel + 1, '\\' :: rest =>
    let body := match rest with
      | '0' :: d :: _ => if Text.isOctal d then rest.drop 1 else rest
      | _ => rest
    let (c, rest) := escape body
    let (more, stops) := unescaped fuel rest
    (c :: more, stops)
  | fuel + 1, c :: rest =>
    let (more, stops) := unescaped fuel rest
    (c :: more, stops)

def plain (text : Text) : Text × Bool := unescaped (text.length + 1) text

/-- Words with their escapes carried out, blanks between them and an ending behind. -/
def spaced (ending : Text) : List Text → Text
  | [] => ending
  | [word] =>
    let (text, stops) := plain word
    if stops then text else text ++ ending
  | word :: rest =>
    let (text, stops) := plain word
    if stops then text else text ++ ' ' :: spaced ending rest

/-- Writes its arguments; a first argument `-n` leaves out the line end. -/
def echo (arguments : List Text) : Reply :=
  match arguments with
  | ['-', 'n'] :: rest => { output := spaced [] rest }
  | arguments => { output := spaced ['\n'] arguments }

/-! ### Formats -/

/-- How far a format has been used. -/
structure Progress where
  out : Text := []
  arguments : List Text
  /-- What is wrong with arguments that should be numbers, the latest first. -/
  complaints : List Text := []
  fault : Option Text := none
  stops : Bool := false

namespace Progress

def put (p : Progress) (text : Text) : Progress := { p with out := p.out ++ text }

/-- The next argument, if there is one. -/
def take (p : Progress) : Option Text × Progress :=
  (p.arguments.head?, { p with arguments := p.arguments.drop 1 })

/-- Notes what is wrong with an argument, of which a part was read as a number. -/
def checked (p : Progress) (argument rest : Text) (isOut : Bool) : Progress :=
  let note := fun (reason : String) =>
    { p with complaints := (argument ++ ": ".toList ++ reason.toList) :: p.complaints }
  if !rest.isEmpty then
    note (if rest.length = argument.length then "expected numeric value" else
      "not completely converted")
  else if isOut then note Errno.range.wording
  else p

end Progress

/-- The next argument as a number: the code of a character behind a quotation mark, or what a
scanner reads. -/
def numberFrom {α : Type} (ofNat : Nat → α) (scan : Text → α × Bool × Text) (p : Progress) :
    α × Progress :=
  match p.take with
  | (none, p) => (ofNat 0, p)
  | (some argument, p) =>
    match argument with
    | '"' :: rest | '\'' :: rest => (ofNat ((rest.head?.map Char.toNat).getD 0), p)
    | _ =>
      let (value, isOut, rest) := scan argument
      (value, p.checked argument rest isOut)

def signedFrom : Progress → Int × Progress :=
  numberFrom (fun n => (n : Int)) fun text =>
    let s := Scanned.ofFront true text
    (s.signed.1, s.signed.2, s.rest)

def unsignedFrom : Progress → Nat × Progress :=
  numberFrom id fun text =>
    let s := Scanned.ofFront true text
    (s.unsigned.1, s.unsigned.2, s.rest)

def floatingFrom : Progress → Floating × Progress :=
  numberFrom (fun n => { magnitude := .finite n 0 }) (Floating.ofFront .double)

/-- A field of a directive: a number, or a star for an argument. -/
def field (text : Text) (p : Progress) : Option Int × Text × Progress :=
  let digits := fun (text : Text) => text.takeWhile fun c => c.isDigit || c == '*'
  match text with
  | '*' :: rest =>
    let (n, p) := signedFrom p
    (some n, rest.drop (digits rest).length, p)
  | text =>
    let ds := digits text
    (if ds.isEmpty then none else some (Text.valueOf 10 (ds.takeWhile (·.isDigit))),
      text.drop ds.length, p)

def isFlag (c : Char) : Bool := "#-+ 0".toList.contains c

/-- Lays out the next argument by a directive; there is no result for a letter without meaning. -/
def convert (d : Directive) (letter : Char) (p : Progress) : Option Progress :=
  match letter with
  | 'b' =>
    let (argument, p) := p.take
    let (text, stops) := plain (argument.getD [])
    some { p.put (d.ofText text) with stops }
  | 'c' =>
    let (argument, p) := p.take
    some (p.put (d.padded [(argument.bind List.head?).getD '\x00']))
  | 's' =>
    let (argument, p) := p.take
    some (p.put (d.ofText (argument.getD [])))
  | 'd' | 'i' =>
    let (n, p) := signedFrom p
    some (p.put (d.ofSigned n))
  | 'o' | 'u' | 'x' | 'X' =>
    let (n, p) := unsignedFrom p
    some (p.put (d.ofUnsigned letter n))
  | 'a' | 'A' | 'e' | 'E' | 'f' | 'F' | 'g' | 'G' =>
    let (x, p) := floatingFrom p
    some (p.put (d.ofFloating .double letter x))
  | _ => none

/-- Carries out the directive behind a percent sign; gives what is behind it. -/
def directive (text : Text) (p : Progress) : Text × Progress :=
  let flags := text.takeWhile isFlag
  let (width, behind, p) := field (text.drop flags.length) p
  let (precision, behind, p) := match behind with
    | '.' :: rest =>
      let (precision, behind, p) := field rest p
      (some (precision.getD 0), behind, p)
    | behind => (none, behind, p)
  match behind with
  | [] => ([], { p with fault := some "missing format character".toList })
  | letter :: rest =>
    let d := (({} : Directive).withFlags flags).withWidth (width.getD 0)
    match convert (d.withPrecision (precision.getD (-1))) letter p with
    | some p => (rest, p)
    | none =>
      let shown := '%' :: text.take (text.length - rest.length)
      (rest, { p with fault := some (shown ++ ": invalid directive".toList) })

/-- Uses the format once. -/
def once : Nat → Text → Progress → Progress
  | 0, _, p => p
  | _ + 1, [], p => p
  | fuel + 1, c :: rest, p =>
    if p.stops || p.fault.isSome then p
    else if c == '\\' then
      let (d, rest) := escape rest
      once fuel rest (p.put [d])
    else if c == '%' then
      match rest with
      | '%' :: rest => once fuel rest (p.put ['%'])
      | rest =>
        let (rest, p) := directive rest p
        once fuel rest p
    else once fuel rest (p.put [c])

/-- Uses the format as long as it takes arguments and some are left. -/
def repeated (format : Text) : Nat → Progress → Progress
  | 0, p => p
  | rounds + 1, p =>
    let after := once (format.length + 1) format p
    if after.stops || after.fault.isSome || after.arguments.isEmpty ||
      after.arguments.length = p.arguments.length then after
    else repeated format rounds after

def warnAll : List Text → Acts Unit
  | [] => pure ()
  | text :: rest => do
    Acts.warn text
    warnAll rest

/-- Writes its arguments by a format. -/
def format (arguments : List Text) : Acts Reply := do
  match ← Acts.operands arguments with
  | [] => Acts.failWith "usage: printf format [arg ...]"
  | format :: arguments =>
    let p := repeated format (arguments.length + 1) { arguments }
    warnAll p.complaints.reverse
    match p.fault with
    | some fault => do
      Acts.warn fault
      pure { output := p.out, status := 2, breaks := true }
    | none => pure { output := p.out, status := if p.complaints.isEmpty then 0 else 1 }

end JobShell.Script.Printing
