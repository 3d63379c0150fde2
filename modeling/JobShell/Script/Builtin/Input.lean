import JobShell.Script.Builtin.Reply
import JobShell.Script.Expansion
import JobShell.Script.Trap

/-!
Reading a line into variables, and options of a script.
-/

namespace JobShell.Script.Input

open Machine Toolbox

/-- A line that has been read: characters that may separate fields, and such as a backslash stands
before. -/
structure Line where
  glyphs : List (Bool × Char) := []
  isComplete : Bool := false

/-- Reads a line byte by byte. -/
def readLine (keepsBackslashes : Bool) : Nat → Bool → List (Bool × Char) → Acts Line
  | 0, _, glyphs => pure { glyphs := glyphs.reverse }
  | fuel + 1, isEscaped, glyphs => do
    match ← Acts.ask (.read 0 1) with
    | .error e =>
      if e = Errno.interrupted && (← Acts.poll).isEmpty then
        readLine keepsBackslashes fuel isEscaped glyphs
      else pure { glyphs := glyphs.reverse }
    | .ok bytes =>
      match Bytes.toLatin bytes with
      | [] => pure { glyphs := glyphs.reverse }
      | '\x00' :: _ => readLine keepsBackslashes fuel isEscaped glyphs
      | c :: _ =>
        if isEscaped then
          readLine keepsBackslashes fuel false (if c == '\n' then glyphs else (true, c) :: glyphs)
        else if c == '\\' && !keepsBackslashes then readLine keepsBackslashes fuel true glyphs
        else if c == '\n' then pure { glyphs := glyphs.reverse, isComplete := true }
        else readLine keepsBackslashes fuel false ((false, c) :: glyphs)

/-- More characters than any line has. -/
def longest : Nat := 1000000000

/-- A line as an expanded word. -/
def Line.expanded (line : Line) : Expanded :=
  let add := fun (glyph : Bool × Char) (word : Expanded) =>
    let seams := if glyph.1 then Seams.none_ else .separators
    let shown := if glyph.1 then Glyph.literal glyph.2 else .char glyph.2
    match word with
    | stretch :: rest =>
      if stretch.seams == seams then { stretch with glyphs := shown :: stretch.glyphs } :: rest
      else ⟨seams, [shown]⟩ :: word
    | [] => [⟨seams, [shown]⟩]
  line.glyphs.foldr add []

/-- Gives variables the fields of a line; those that are left over get empty texts. -/
def assign : List Text → List Text → Acts Unit
  | [], _ => pure ()
  | name :: names, fields => do
    Acts.assign name (fields.head?.getD [])
    assign names (fields.drop 1)

/-- Reads a line into variables, of which the last gets the rest of the line. -/
def read (arguments : List Text) : Acts Reply := do
  let flags ← Acts.flags [('p', true), ('r', false)] arguments
  if flags.operands.isEmpty then Acts.failWith "arg count"
  let line ← readLine (flags.has 'r') longest false []
  let fields := line.expanded.split (← get).separators (some flags.operands.length)
  assign flags.operands (fields.map fun glyphs => glyphs.filterMap Glyph.char?)
  pure (.ofBool line.isComplete)

/-! ### Options of a script -/

def argumentName : Text := "OPTARG".toList
def indexName : Text := "OPTIND".toList

/-- What has been read of an option. -/
structure Choice where
  letter : Char := '?'
  /-- The value of the variable for arguments, which otherwise is unset. -/
  argument : Option Text := none
  /-- How many words have been passed. -/
  index : Nat
  offset : Option Nat := none
  complaint : Option Text := none
  isEnd : Bool := false

/-- Looks for a letter among those that are known; gives whether it takes an argument. -/
def wanted? (letter : Char) : Text → Option Bool
  | [] => none
  | c :: rest =>
    if c == letter then some (rest.head? == some ':')
    else match rest with
      | ':' :: rest => wanted? letter rest
      | rest => wanted? letter rest

/-- Reads the option whose letters are given, in the word before `next`. -/
def optionAt (known : Text) (words : List Text) (next : Nat) (letter : Char) (behind : Text)
    (offset : Nat) : Choice :=
  let isQuiet := known.head? == some ':'
  let bad := fun (shown : Char) (complaint : Text) (place : Option Nat) =>
    if isQuiet then
      ({ letter := shown, argument := some [letter], index := next, offset := place } : Choice)
    else { index := next, offset := place, complaint := some complaint }
  let here := some offset
  match wanted? letter known with
  | none => bad '?' ("Illegal option -".toList ++ [letter]) here
  | some false => { letter, argument := some [], index := next, offset := here }
  | some true =>
    if !behind.isEmpty then { letter, argument := some behind, index := next }
    else match words[next - 1]? with
      | some argument => { letter, argument := some argument, index := next + 1 }
      | none => bad ':' ("No arg for -".toList ++ letter :: " option".toList) here

/-- The option that comes next among words.  `index` is the number of the word after the present one
and `offset` how much of the present one has been read. -/
def nextOption (known : Text) (words : List Text) (index : Nat) (offset : Option Nat) : Choice :=
  let present := match offset with
    | some n => if index ≤ 1 then [] else ((words[index - 2]?).getD []).drop n
    | none => []
  match present, offset with
  | c :: behind, some n => optionAt known words index c behind (n + 1)
  | _, _ =>
    match words[index - 1]? with
    | some ['-', '-'] => { index := index + 1, isEnd := true }
    | some ('-' :: c :: behind) => optionAt known words (index + 1) c behind 2
    | _ => { index, isEnd := true }

/-- Reads the next option of a script. -/
def readOption (arguments : List Text) : Acts Reply := do
  match ← Acts.operands arguments with
  | known :: name :: rest => do
    let s ← get
    let words := if rest.isEmpty then s.parameters else rest
    let isOut := words.length + 1 < s.optionIndex
    let index := if isOut then 1 else s.optionIndex
    let found := nextOption known words index (if isOut then none else s.optionOffset)
    modify fun s => { s with optionIndex := words.length + 2 }
    match found.complaint with
    | some complaint => do
      let _ ← Acts.write 2 (Reply.line complaint)
    | none => pure ()
    if !found.isEnd then
      match found.argument with
      | some argument => Acts.setVariable argumentName argument
      | none => Acts.unsetVariable argumentName
    Acts.putVariable indexName (Text.decimal found.index) false
    Acts.assign name [found.letter]
    modify fun s => { s with optionIndex := found.index, optionOffset := found.offset }
    pure (.ofBool !found.isEnd)
  | _ => Acts.failWith "Usage: getopts optstring var [arg...]"

end JobShell.Script.Input
