import JobShell.Toolbox.Expression.Basic
import JobShell.Toolbox.Expression.Bracket

/-!
How regular expressions are spelled.

There are two spellings.  In the basic one the signs for groups, choices, repetitions by number, and
the plus and question marks have a backslash before them; in the extended one it is the bare
characters that are signs.  `Spelling.read` goes through a text once and keeps the groups that are
open.
-/

namespace JobShell.Toolbox

inductive Spelling
  | basic | extended
  deriving DecidableEq

namespace Spelling

/-- The signs of a spelling. -/
inductive Sign
  | character (c : Char)
  | any
  | bracket
  | open_ | close
  | bar
  | star | plus | question
  | interval | intervalEnd
  | caret | dollar
  | again (number : Nat)
  | edge (edge : Edge)
  | class_ (isMember : Char → Bool)
  | trailing

/-- What a character behind a backslash means in both spellings. -/
def escaped? (c : Char) : Option Sign :=
  let word := fun (c : Char) => Text.isNameChar c
  match c with
  | '<' => some (.edge .wordStart)
  | '>' => some (.edge .wordEnd)
  | 'b' => some (.edge .wordEdge)
  | 'B' => some (.edge .noWordEdge)
  | '\x60' => some (.edge .lineStart)
  | '\'' => some (.edge .lineEnd)
  | 'w' => some (.class_ word)
  | 'W' => some (.class_ fun c => !word c)
  | 's' => some (.class_ Text.isBlank)
  | 'S' => some (.class_ fun c => !Text.isBlank c)
  | _ => if '1' ≤ c && c ≤ '9' then some (.again (c.toNat - '0'.toNat)) else none

/-- The characters that one spelling marks with a backslash and the other does not. -/
def marked? (c : Char) : Option Sign :=
  match c with
  | '(' => some .open_
  | ')' => some .close
  | '|' => some .bar
  | '+' => some .plus
  | '?' => some .question
  | '\x7b' => some .interval
  | '\x7d' => some .intervalEnd
  | _ => none

/-- The sign at the front of a text, and what follows it. -/
def sign? (spelling : Spelling) : Text → Option (Sign × Text)
  | [] => none
  | ['\\'] => some (.trailing, [])
  | '\\' :: c :: rest =>
    let marked := if spelling = .basic then marked? c else none
    some ((marked <|> escaped? c).getD (.character c), rest)
  | c :: rest =>
    let sign := match c with
      | '.' => .any
      | '[' => .bracket
      | '*' => .star
      | '^' => .caret
      | '$' => .dollar
      | c => ((if spelling = .extended then marked? c else none)).getD (.character c)
    some (sign, rest)

/-- The parts of a group, or of the whole, as far as they have been read. -/
structure Frame where
  number : Nat := 0
  /-- Choices before the last bar. -/
  choices : List Expression := []
  /-- What stands behind that bar, last part first. -/
  parts : List Expression := []
  /-- Groups that were closed before this one was opened. -/
  closedBefore : List Nat := []
  /-- Groups that have been closed in earlier choices. -/
  closedInside : List Nat := []

/-- An expression as far as it has been read. -/
structure Reading where
  frame : Frame := {}
  outer : List Frame := []
  groups : Nat := 0
  closed : List Nat := []
  /-- Nothing stands before that could be repeated. -/
  atStart : Bool := true
  /-- A caret stands for the start of the line. -/
  caretIsEdge : Bool := true
  /-- A repetition without anything before it has been passed over. -/
  skipped : Bool := false
  warnings : List Text := []
  isConfusing : Bool := false

namespace Reading

def add (reading : Reading) (part : Expression) : Reading :=
  { reading with
    frame := { reading.frame with parts := part :: reading.frame.parts }
    atStart := false
    caretIsEdge := false
    skipped := false }

/-- The end of a line or the start, which leave what is at the start there. -/
def addEdge (reading : Reading) (edge : Edge) : Reading :=
  { reading.add (.at_ edge) with atStart := reading.atStart, caretIsEdge := true }

def addChar (ignoresCase : Bool) (reading : Reading) (c : Char) : Reading :=
  reading.add (.ofText ignoresCase [c])

end Reading

/-- The parts of a frame put together. -/
def Frame.expression (frame : Frame) : Expression :=
  let joined := fun (parts : List Expression) =>
    parts.foldl (fun behind part => .sequence part behind) .empty
  frame.choices.foldl (fun behind choice => .choice choice behind) (joined frame.parts)

def Reading.open_ (reading : Reading) : Reading :=
  let frame : Frame := { number := reading.groups + 1, closedBefore := reading.closed }
  { reading with
    frame, outer := reading.frame :: reading.outer, groups := reading.groups + 1
    atStart := true, caretIsEdge := true, skipped := false }

/-- The reading behind the end of a group, if one is open. -/
def Reading.close? (reading : Reading) : Option Reading :=
  match reading.outer with
  | [] => none
  | frame :: outer =>
    let { number, closedInside, .. } := reading.frame
    let closed := number :: (closedInside ++ reading.closed)
    some ({ reading with frame, outer, closed }.add (.group number reading.frame.expression))

/-- Begins another choice. -/
def Reading.bar (reading : Reading) : Reading :=
  let frame := reading.frame
  let choice := { frame with choices := [] }.expression
  { reading with
    frame :=
      { frame with
        choices := choice :: frame.choices, parts := []
        closedInside := frame.closedInside ++ reading.closed }
    closed := frame.closedBefore
    atStart := true, caretIsEdge := true, skipped := false }

/-- Repeats the part that was read last. -/
def Reading.repeat_ (reading : Reading) (least : Nat) (most : Option Nat) : Reading :=
  match reading.frame.parts with
  | [] => reading
  | part :: parts =>
    { reading with
      frame := { reading.frame with parts := .repeated part least most :: parts }
      caretIsEdge := false }

/-- The most repetitions that may be asked for. -/
def maxRepetitions : Nat := 32767

/-- What stands between the marks of an interval. -/
inductive Interval
  | between (least : Nat) (most : Option Nat) (rest : Text)
  /-- The text is no interval, and may stand for itself. -/
  | none_ (fault : ExpressionFault)
  | wrong (fault : ExpressionFault)

/-- The text up to the end of an interval, and what follows it. -/
def intervalText? (spelling : Spelling) (text : Text) : Option (Text × Text) :=
  let inside := text.takeWhile fun c => c.isDigit || c == ','
  let rest := text.drop inside.length
  match spelling, rest with
  | .basic, '\\' :: '\x7d' :: behind => some (inside, behind)
  | .extended, '\x7d' :: behind => some (inside, behind)
  | _, _ => none

/-- The end of an interval stands somewhere in the text. -/
def hasIntervalEnd (spelling : Spelling) (text : Text) : Bool :=
  match spelling with
  | .basic => (text.zip (text.drop 1)).any (· == ('\\', '\x7d'))
  | .extended => text.contains '\x7d'

def interval (spelling : Spelling) (text : Text) : Interval :=
  match intervalText? spelling text with
  | none =>
    .none_ (if hasIntervalEnd spelling text then .intervalContent else .interval)
  | some (inside, rest) =>
    let first := inside.takeWhile Char.isDigit
    let bound := fun (digits : Text) => Text.valueOf 10 digits
    match inside.drop first.length with
    | [] =>
      if first.isEmpty then .wrong .intervalContent
      else if maxRepetitions < bound first then .wrong .tooBig
      else .between (bound first) (some (bound first)) rest
    | _ :: last =>
      if last.contains ',' then .wrong .intervalContent
      else if last.isEmpty then
        if maxRepetitions < bound first then .wrong .tooBig else .between (bound first) none rest
      else if bound last < bound first then .wrong .intervalContent
      else if maxRepetitions < bound last then .wrong .tooBig
      else .between (bound first) (some (bound last)) rest

def warning (name : String) : Text := name.toList ++ " at start of expression".toList

/-- A repetition sign: it repeats what stands before it.  With nothing there it is a character in
the basic spelling and passed over in the extended one. -/
def repetition (spelling : Spelling) (ignoresCase : Bool) (c : Char) (least : Nat)
    (most : Option Nat) (reading : Reading) : Reading :=
  if !reading.atStart then reading.repeat_ least most
  else if spelling = .basic then reading.addChar ignoresCase c
  else
    { reading.repeat_ least most with
      skipped := true, warnings := reading.warnings ++ [warning c.toString] }

/-- Whether a dollar sign stands for the end of the line before this text. -/
def endsLine (spelling : Spelling) (rest : Text) : Bool :=
  spelling = .extended || rest.isEmpty || "\\)".toList.isPrefixOf rest || "\\|".toList.isPrefixOf rest

/-- The reading behind a sign, and the text that is left. -/
def step (spelling : Spelling) (ignoresCase : Bool) (reading : Reading) (sign : Sign)
    (rest : Text) : Except ExpressionFault (Reading × Text) :=
  match sign with
  | .character c => .ok (reading.addChar ignoresCase c, rest)
  | .any => .ok (reading.add (.oneOf (· != '\x00')), rest)
  | .class_ isMember => .ok (reading.add (.oneOf isMember), rest)
  | .bracket => do
    let list ← Bracket.read ignoresCase rest
    let isConfusing := reading.isConfusing || list.isConfusing
    pure ({ reading.add (.oneOf list.isMember) with isConfusing }, list.rest)
  | .open_ => .ok (reading.open_, rest)
  | .close =>
    match if reading.skipped then none else reading.close? with
    | some reading => .ok (reading, rest)
    | none =>
      if spelling = .extended then .ok (reading.addChar ignoresCase ')', rest)
      else .error .closingGroup
  | .bar => .ok (reading.bar, rest)
  | .star => .ok (repetition spelling ignoresCase '*' 0 none reading, rest)
  | .plus => .ok (repetition spelling ignoresCase '+' 1 none reading, rest)
  | .question => .ok (repetition spelling ignoresCase '?' 0 (some 1) reading, rest)
  | .intervalEnd => .ok (reading.addChar ignoresCase '\x7d', rest)
  | .interval =>
    let asText := .ok (reading.addChar ignoresCase '\x7b', rest)
    if reading.atStart && spelling = .basic then asText
    else
      match interval spelling rest, reading.atStart with
      | .between least most behind, false => .ok (reading.repeat_ least most, behind)
      | .between least most behind, true =>
        let shown := warning "\x7b...\x7d"
        .ok
          ({ reading.repeat_ least most with
              atStart := false, skipped := true, warnings := reading.warnings ++ [shown] },
            behind)
      | .none_ fault, _ => if spelling = .extended then asText else .error fault
      | .wrong fault, isAtStart => if isAtStart then asText else .error fault
  | .caret =>
    if spelling = .extended || reading.caretIsEdge then .ok (reading.addEdge .lineStart, rest)
    else .ok (reading.addChar ignoresCase '^', rest)
  | .dollar =>
    if endsLine spelling rest then .ok (reading.addEdge .lineEnd, rest)
    else .ok (reading.addChar ignoresCase '$', rest)
  | .edge edge => .ok (reading.addEdge edge, rest)
  | .again number =>
    if reading.closed.contains number then .ok (reading.add (.again number), rest)
    else .error .backReference
  | .trailing => .error .trailingBackslash

/-- Reads signs up to the end; each takes a character at least, so the length is fuel enough. -/
def steps (spelling : Spelling) (ignoresCase : Bool) : Nat → Reading → Text →
    Except ExpressionFault Reading
  | 0, reading, _ => .ok reading
  | fuel + 1, reading, text =>
    match sign? spelling text with
    | none => if reading.outer.isEmpty then .ok reading else .error .group
    | some (sign, rest) => do
      let (reading, rest) ← step spelling ignoresCase reading sign rest
      steps spelling ignoresCase fuel reading rest

/-- The reading of a whole text. -/
def read (spelling : Spelling) (ignoresCase : Bool) (text : Text) :
    Except ExpressionFault Reading :=
  steps spelling ignoresCase (text.length + 1) {} text

end Spelling

/-- The wording of a fault. -/
def ExpressionFault.wording : ExpressionFault → String
  | invalid => "Invalid regular expression"
  | collation => "Invalid collation character"
  | className_ => "Invalid character class name"
  | trailingBackslash => "Trailing backslash"
  | backReference => "Invalid back reference"
  | bracket => "Unmatched [, [^, [:, [., or [="
  | group => "Unmatched ( or \\("
  | interval => "Unmatched \\\x7b"
  | intervalContent => "Invalid content of \\\x7b\\\x7d"
  | range => "Invalid range end"
  | tooBig => "Regular expression too big"
  | closingGroup => "Unmatched ) or \\)"

end JobShell.Toolbox
