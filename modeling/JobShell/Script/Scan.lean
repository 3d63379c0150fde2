import JobShell.Script.Source

/-!
Reading one word.

What a character means depends on the quotation it stands in.  Parameters in braces and sums may
stand in each other, each with its own quotation; `Level` says how far inside the reader is.  A word
is first read as a list of marks, in which the beginnings and the ends of the inner parts stand side
by side, and then put together.
-/

namespace JobShell.Script

open Toolbox

/-- How characters are understood. -/
inductive Manner
  | base | double | single | sum
  deriving DecidableEq

/-- What a character is for the reader of a word. -/
inductive Role
  | newline | ordinary | special | backslash | singleQuote | doubleQuote | endQuote | dollar
  | endParameter | openParenthesis | closeParenthesis | backquote | boundary | endOfInput

/-- Characters that are kept from being understood in quotations. -/
def specials : Text := "!*?[=~:/-]".toList

def roleOf (manner : Manner) : Option Char → Role
  | none => .endOfInput
  | some '\n' => .newline
  | some c =>
    match manner with
    | .base =>
      if c == '\\' then .backslash else if c == '\'' then .singleQuote
      else if c == '"' then .doubleQuote else if c == '\x60' then .backquote
      else if c == '$' then .dollar else if c == '\x7d' then .endParameter
      else if "<>();&| \t".toList.contains c then .boundary else .ordinary
    | .double =>
      if c == '\\' then .backslash else if c == '"' then .endQuote
      else if c == '\x60' then .backquote else if c == '$' then .dollar
      else if c == '\x7d' then .endParameter
      else if specials.contains c then .special else .ordinary
    | .single =>
      if c == '\'' then .endQuote
      else if c == '\\' || specials.contains c then .special else .ordinary
    | .sum =>
      if c == '\\' then .backslash else if c == '\x60' then .backquote
      else if c == '$' then .dollar else if c == '\x7d' then .endParameter
      else if c == '(' then .openParenthesis else if c == ')' then .closeParenthesis
      else .ordinary

/-- How far inside a word its reader is. -/
structure Level where
  manner : Manner
  isDouble : Bool := false
  /-- How many parameters are open on this level. -/
  depth : Nat := 0
  /-- How many of them were opened in a quotation. -/
  quotedDepth : Nat := 0
  /-- A quotation is open inside a parameter. -/
  isInner : Bool := false
  parentheses : Nat := 0
  /-- The level ends with its parameters. -/
  isOwn : Bool := false

/-- A mark of a word. -/
inductive Mark
  | piece (piece : Piece)
  | openParameter (name : Text) (use : Use) (orNull : Bool)
  | closeParameter
  | openSum
  | closeSum

structure Scan where
  level : Level
  outer : List Level := []
  /-- The marks that have been read, the latest first. -/
  marks : List Mark := []
  isQuoted : Bool := false

namespace Scan

def put (s : Scan) (piece : Piece) : Scan := { s with marks := .piece piece :: s.marks }

def putMark (s : Scan) (mark : Mark) : Scan := { s with marks := mark :: s.marks }

def leave (s : Scan) : Scan :=
  match s.outer with
  | level :: outer => { s with level, outer }
  | [] => s

def enter (s : Scan) (level : Level) : Scan := { s with level, outer := s.level :: s.outer }

/-- The parts that are open while marks are put together. -/
inductive Frame
  | parameter (name : Text) (use : Use) (orNull : Bool)
  | sum

def Frame.piece (frame : Frame) (word : Word) : Piece :=
  match frame with
  | .parameter name use orNull => .parameter name use orNull word
  | .sum => .sum word

/-- Puts marks together; each open part has the pieces before it, the latest first. -/
def assemble : List Mark → List (Frame × Word) → Word → Word
  | [], [], done => done.reverse
  | [], (frame, before) :: frames, done =>
    assemble [] frames (frame.piece done.reverse :: before)
  | .piece p :: rest, frames, done => assemble rest frames (p :: done)
  | .openParameter name use orNull :: rest, frames, done =>
    assemble rest ((.parameter name use orNull, done) :: frames) []
  | .openSum :: rest, frames, done => assemble rest ((.sum, done) :: frames) []
  | .closeParameter :: rest, (frame, before) :: frames, done
  | .closeSum :: rest, (frame, before) :: frames, done =>
    assemble rest frames (frame.piece done.reverse :: before)
  | .closeParameter :: rest, [], done | .closeSum :: rest, [], done => assemble rest [] done
termination_by marks frames => (marks.length, frames.length)

def word (s : Scan) : Word := assemble s.marks.reverse [] []

end Scan

/-- How commands inside a word are read. -/
structure Inner where
  /-- Up to a closing parenthesis. -/
  enclosed : Reads (Option Command)
  /-- Up to the end of the text. -/
  whole : Reads (Option Command)

namespace Scan

open Reads

def isNameStart (c : Option Char) : Bool := c.any Text.isNameStart

def isSpecial (c : Option Char) : Bool := c.any fun c => c.isDigit || "#?$!-*@".toList.contains c

/-- Characters as long as they satisfy a condition, and the first that does not. -/
def run (p : Char → Bool) : Nat → Option Char → Reads (Text × Option Char)
  | 0, c => pure ([], c)
  | fuel + 1, c =>
    match c with
    | some d =>
      if p d then do
        let (more, after) ← run p fuel (← nextJoined)
        pure (d :: more, after)
      else pure ([], c)
    | none => pure ([], none)

/-- What the letter behind the name of a parameter asks for. -/
def useOf? : Char → Option Use
  | '\x7d' => some .value
  | '-' => some .otherwise
  | '+' => some .instead
  | '?' => some .demand
  | '=' => some .assign
  | _ => none

/-- The operator behind the name of a parameter in braces. -/
def operator (c : Option Char) : Reads (Use × Bool) := do
  match c with
  | some ':' =>
    let d ← nextJoined
    pure ((d.bind useOf?).getD .unknown, true)
  | some '%' | some '#' =>
    let d ← nextJoined
    if d = c then pure (.trim (c = some '#') true, false)
    else do
      back d
      pure (.trim (c = some '#') false, false)
  | c => pure ((c.bind useOf?).getD .unknown, false)

/-- The name of a parameter and what is asked of it; `inBraces` says whether it stands in braces. -/
def parameterHead (inBraces : Bool) (c : Option Char) : Reads (Text × Use × Bool) := do
  let finish := fun (name : Text) (isLength : Bool) (c : Option Char) => do
    if isLength then
      back c
      pure (name, if c = some '\x7d' then Use.length else .unknown, false)
    else if inBraces then
      let (use, orNull) ← operator c
      pure (name, use, orNull)
    else do
      back c
      pure (name, Use.value, false)
  let named := fun (isLength : Bool) (c : Option Char) => do
    if isNameStart c then
      let (name, after) ← run Text.isNameChar bound c
      finish name isLength after
    else if c.any Char.isDigit then
      if inBraces then
        let (name, after) ← run Char.isDigit bound c
        finish name isLength after
      else do
        let after ← nextJoined
        finish c.toList isLength after
    else do
      let after ← nextJoined
      if isSpecial c then finish c.toList isLength after
      else do
        back after
        pure ([], if inBraces then .unknown else .value, false)
  if c = some '\x7d' then do
    back c
    pure ([], if inBraces then .unknown else .value, false)
  else if inBraces && c = some '#' then do
    let c ← nextJoined
    if c.any fun c => Text.isNameChar c then named true c
    else do
      let d ← nextJoined
      if c = some '\x7d' || d != some '\x7d' then do
        back d
        finish ['#'] false c
      else if isSpecial c then finish c.toList true d
      else do
        back d
        pure ([], .unknown, false)
  else named false c

/-- Reads the old form of a substitution up to its end. -/
def oldText (isDouble : Bool) : Nat → Text → Reads Text
  | 0, text => pure text.reverse
  | fuel + 1, text => do
    match ← nextJoined with
    | some '\x60' => pure text.reverse
    | some '\\' =>
      let c ← next
      let isEscape := match c with
        | some d => d == '\\' || d == '\x60' || d == '$' || (isDouble && d == '"')
        | none => false
      let text := if isEscape then text else '\\' :: text
      match c with
      | none => fail "EOF in backquote substitution"
      | some c => oldText isDouble fuel (c :: text)
    | some '\n' => do
      newLine
      oldText isDouble fuel ('\n' :: text)
    | none => fail "EOF in backquote substitution"
    | some c => oldText isDouble fuel (c :: text)

/-- Reads commands in a word; here-documents announced outside wait. -/
def commands (reader : Reads (Option Command)) : Reads (Option Command) := do
  let outer := (← get).announced
  modify fun r => { r with announced := [] }
  let body ← reader
  modify fun r => { r with announced := outer }
  pure body

/-- What a dollar sign starts. -/
def dollar (inner : Inner) (s : Scan) : Reads Scan := do
  let c ← nextJoined
  let starts := c = some '(' || c = some '\x7b' || isNameStart c || isSpecial c
  if (← get).attention.isMark || !starts then do
    back c
    pure (s.put (.char '$'))
  else if c = some '(' then
    let d ← nextJoined
    if d = some '(' then
      pure ((s.enter { manner := .sum, isDouble := true }).putMark .openSum)
    else do
      back d
      pure (s.put (.output (← commands inner.enclosed)))
  else do
    let inBraces := c = some '\x7b'
    let c ← if inBraces then nextJoined else pure c
    let (name, use, orNull) ← parameterHead inBraces c
    if use = .value && !orNull then pure (s.put (.parameter name .value false []))
    else
      let isTrim := match use with
        | .trim _ _ => true
        | _ => false
      let manner := if isTrim then .base else if s.level.manner = .sum then .double else s.level.manner
      let s := if manner != s.level.manner || s.level.isInner then
          s.enter { manner, isDouble := manner != .base, isOwn := true }
        else s
      let level := { s.level with
        depth := s.level.depth + 1
        quotedDepth := s.level.quotedDepth + (if s.level.isDouble then 1 else 0) }
      pure ({ s with level }.putMark (.openParameter name use orNull))

/-- What a closing brace ends. -/
def endParameter (s : Scan) : Scan :=
  if s.level.isInner || s.level.depth = 0 then s.put (.char '\x7d')
  else
    let level := { s.level with depth := s.level.depth - 1 }
    let closed := { s with level }.putMark .closeParameter
    if level.depth = 0 && level.isOwn then closed.leave
    else { closed with level := { level with quotedDepth := level.quotedDepth - 1 } }

/-- Puts in a quotation mark, which here-documents do not have. -/
def putQuote (inDocument : Bool) (s : Scan) : Scan := if inDocument then s else s.put .mark

def toggleInner (s : Scan) : Scan :=
  if 0 < s.level.depth then { s with level := { s.level with isInner := !s.level.isInner } } else s

/-- What a backslash makes of the character behind it. -/
def backslash (inDocument : Bool) (s : Scan) : Reads Scan := do
  match ← next with
  | none => pure (s.put (.literal '\\'))
  | some c =>
    let staysFor := c != '\\' && c != '\x60' && c != '$' &&
      (c != '"' || (inDocument && s.level.depth = 0)) && (c != '\x7d' || s.level.depth = 0)
    let s := if s.level.isDouble && staysFor then s.put (.literal '\\') else s
    pure { s.put (.literal c) with isQuoted := true }

/-- What a closing parenthesis ends in a sum. -/
def closeParenthesis (s : Scan) : Reads Scan := do
  if 0 < s.level.parentheses then
    pure ({ s with level := { s.level with parentheses := s.level.parentheses - 1 } }.put (.char ')'))
  else
    let c ← nextJoined
    if c = some ')' then pure (s.putMark .closeSum).leave
    else do
      back c
      pure (s.put (.char ')'))

/-- Compares what is read with the mark of a document; gives what was read of it, and whether the
line is the mark. -/
def matchMark : Text → Text → Option Char → Reads (Bool × Text × Option Char)
  | [], read, c =>
    pure (c.all (· == '\n'), read, c)
  | m :: mark, read, c =>
    if c = some m then do matchMark mark (m :: read) (← next)
    else pure (false, read, c)

def dropTabs : Nat → Option Char → Reads (Option Char)
  | 0, c => pure c
  | fuel + 1, c => do if c = some '\t' then dropTabs fuel (← next) else pure c

/-- At the front of a line of a document: its first character, or nothing if the line ends it. -/
def lineStart (document : Option (Text × Bool)) (c : Option Char) : Reads (Option Char) := do
  match document with
  | none => pure c
  | some (mark, stripsTabs) =>
    let c ← if stripsTabs then dropTabs bound c else pure c
    let (isEnd, read, after) ← matchMark mark [] c
    if isEnd then
      if after = some '\n' then newLine
      pure none
    else do
      back after
      backAll read.reverse
      next

/-- Reads a word, or a document, whose first character has been read; gives also the character
behind. -/
def loop (inner : Inner) (document : Option (Text × Bool)) :
    Nat → Option Char → Scan → Reads (Scan × Option Char)
  | 0, c, s => pure (s, c)
  | fuel + 1, c, s => do
    let inDocument := document.isSome
    let goOn := fun (s : Scan) => do
      let c ← if s.level.manner = .single then next else nextJoined
      loop inner document fuel c s
    match roleOf s.level.manner c with
    | .endOfInput => pure (s, c)
    | .newline =>
      if s.level.manner = .base && s.level.depth = 0 then pure (s, c)
      else do
        newLine
        let c ← if s.level.manner = .single then next else nextJoined
        loop inner document fuel (← lineStart document c) (s.put (.char '\n'))
    | .boundary =>
      if s.level.depth = 0 then pure (s, c) else goOn (s.put (.char (c.getD ' ')))
    | .ordinary => goOn (s.put (.char (c.getD ' ')))
    | .special => goOn (s.put (.literal (c.getD ' ')))
    | .backslash => do goOn (← backslash inDocument s)
    | .singleQuote =>
      goOn (putQuote inDocument { s with level := { s.level with manner := .single } })
    | .doubleQuote =>
      let s := { s with level := { s.level with manner := .double, isDouble := true } }
      goOn (putQuote inDocument s.toggleInner)
    | .endQuote =>
      if inDocument && s.level.depth = 0 then goOn (s.put (.char (c.getD '"')))
      else
        let s := if s.level.quotedDepth = 0 then
            { s with level := { s.level with manner := .base, isDouble := false } }
          else s
        let s := { s with isQuoted := true }
        goOn (putQuote inDocument (if c = some '"' then s.toggleInner else s))
    | .dollar => do goOn (← dollar inner s)
    | .endParameter => goOn s.endParameter
    | .openParenthesis =>
      let level := { s.level with parentheses := s.level.parentheses + 1 }
      goOn ({ s with level }.put (.char '('))
    | .closeParenthesis => do goOn (← closeParenthesis s)
    | .backquote =>
      if (← get).attention.isMark then goOn { s.put (.char '\x60') with isQuoted := true }
      else do
        let text ← oldText s.level.isDouble bound []
        goOn (s.put (.output (← commands (within text inner.whole))))

/-- Refuses a word that has not been ended. -/
def checkEnd (inDocument : Bool) (s : Scan) : Reads Unit := do
  if s.level.manner = .sum then fail "Missing '))'"
  else if s.level.manner != .base && !inDocument then fail "Unterminated quoted string"
  else if 0 < s.level.depth then fail "Missing '\x7d'"

end Scan

end JobShell.Script
