import JobShell.Toolbox.Search.Wish

/-!
The lines of a file that are selected, and what is shown of them.
-/

namespace JobShell.Toolbox.Search

/-- The patterns of a search, ready to be matched. -/
structure Patterns where
  expressions : List Expression
  /-- Lines are selected when no pattern matches them. -/
  inverted : Bool

/-- A line of a file. -/
structure FileLine where
  number : Nat
  offset : Nat
  characters : Array Char

/-- The lines of a text from a number and an offset on; only the last may be without an end. -/
def linesFrom (end_ : Char) (number offset : Nat) (text : Text) : List FileLine :=
  (text.splitOn end_).foldr
    (fun piece more => fun (number offset : Nat) =>
      let rest := more (number + 1) (offset + piece.length + 1)
      if rest.isEmpty && piece.isEmpty then [] else ⟨number, offset, piece.toArray⟩ :: rest)
    (fun _ _ => []) number offset

def fileLines (wish : Wish) (text : Text) : List FileLine :=
  let end_ := if wish.nullEnds then '\x00' else '\n'
  let text := if text.getLast? == some end_ then text.dropLast else text
  if text.isEmpty then [] else linesFrom end_ 1 0 text

namespace Patterns

/-- The end of the match that counts among those from a place on: the last one that the wish for
whole lines or words admits. -/
def accepted (wish : Wish) (line : Line) (start : Nat) (ends : List Nat) : Option Nat :=
  let size := line.characters.size
  let last := fun (ends : List Nat) => ends.max?
  if wish.wholeLine then
    if start = 0 && ends.contains size then some size else none
  else if wish.wholeWord then
    if line.isAfterWord start then none
    else
      let free := ends.filter fun e => !line.isWordChar e
      match last (free.filter (start < ·)) with
      | some e => some e
      | none => if last ends = some start && free.contains start then some start else none
  else last ends

/-- The first match from a place on, and where it ends. -/
def first? (patterns : Patterns) (wish : Wish) (characters : Array Char) (from_ : Nat) :
    Option (Nat × Nat) :=
  (List.range' from_ (characters.size + 1 - from_)).findSome? fun start =>
    let line := fun (e : Expression) => (⟨characters, wish.ignoresCase, e.refersBack⟩ : Line)
    let ends := patterns.expressions.flatMap fun e => e.ends (line e) start
    (accepted wish ⟨characters, wish.ignoresCase, false⟩ start ends).map (start, ·)

def selects (patterns : Patterns) (wish : Wish) (line : FileLine) : Bool :=
  (patterns.first? wish line.characters 0).isSome != patterns.inverted

/-- The matches in a line that are not empty, one behind the other. -/
def matches_ (patterns : Patterns) (wish : Wish) (characters : Array Char) : Nat → Nat →
    List (Nat × Nat)
  | 0, _ => []
  | fuel + 1, from_ =>
    if characters.size ≤ from_ then []
    else
      match patterns.first? wish characters from_ with
      | none => []
      | some (start, stop) =>
        if start = stop then matches_ patterns wish characters fuel (start + 1)
        else (start, stop) :: matches_ patterns wish characters fuel stop

end Patterns

/-- What stands before a line or a part of it. -/
def head (wish : Wish) (name : Option Text) (line : FileLine) (offset length : Nat) (mark : Char) :
    Text :=
  let padded := fun (n : Nat) =>
    let digits := Text.decimal n
    if wish.aligns then List.replicate (2 - digits.length) ' ' ++ digits else digits
  let shown := fun (shows : Bool) (n : Nat) => if shows then padded n ++ [mark] else []
  let named := name.elim [] fun n => n ++ [if wish.nullAfterName then '\x00' else mark]
  let front := named ++ shown wish.showsNumbers line.number ++ shown wish.showsOffsets offset
  if wish.aligns && !front.isEmpty && 0 < length then front ++ ['\t'] else front

/-- A line as it is shown, or the parts of it that match. -/
def shownLine (patterns : Patterns) (wish : Wish) (name : Option Text) (line : FileLine)
    (isSelected : Bool) : Text :=
  let mark := if isSelected then ':' else '-'
  let end_ := if wish.nullEnds then '\x00' else '\n'
  if wish.onlyMatching then
    if isSelected != patterns.inverted then
      (patterns.matches_ wish line.characters (line.characters.size + 1) 0).flatMap
        fun (start, stop) =>
          head wish name line (line.offset + start) (stop - start) mark ++
            (line.characters.extract start stop).toList ++ ['\n']
    else []
  else
    head wish name line line.offset line.characters.size mark ++ line.characters.toList ++ [end_]

/-- What has been found in a file so far. -/
structure Report where
  /-- Pieces of the output, last one first. -/
  pieces : List Text := []
  selected : Nat := 0
  /-- Lines that still belong to the context of the last one selected. -/
  pending : Nat := 0
  /-- Lines that may become context of the next one, last one first. -/
  waiting : List FileLine := []
  /-- The line before the waiting ones has been shown. -/
  isJoined : Bool := false
  /-- Something has been shown, in this file or an earlier one. -/
  hasShown : Bool := false

/-- Adds a selected line with the context before it, behind a separator if a gap is before it. -/
def Report.select (report : Report) (patterns : Patterns) (wish : Wish) (name : Option Text)
    (line : FileLine) : Report :=
  let before := (wish.context.map (·.1)).getD 0
  let shown := report.waiting.take before
  let isJoined := report.isJoined && shown.length = report.waiting.length
  let gap :=
    match wish.context, wish.separator with
    | some _, some text => if report.hasShown && !isJoined then text ++ ['\n'] else []
    | _, _ => []
  let context := shown.map fun l => shownLine patterns wish name l false
  { report with
    pieces := shownLine patterns wish name line true :: context ++ gap :: report.pieces
    selected := report.selected + 1
    pending := (wish.context.map (·.2)).getD 0
    waiting := []
    isJoined := true
    hasShown := true }

/-- Adds a line that is not selected. -/
def Report.pass (report : Report) (patterns : Patterns) (wish : Wish) (name : Option Text)
    (line : FileLine) : Report :=
  if 0 < report.pending then
    { report with
      pieces := shownLine patterns wish name line false :: report.pieces
      pending := report.pending - 1 }
  else
    { report with waiting := line :: report.waiting }

/-- Goes through lines; at most so many are selected. -/
def Report.go (patterns : Patterns) (wish : Wish) (name : Option Text) :
    Option Nat → List FileLine → Report → Report
  | _, [], report => report
  | some 0, line :: rest, report =>
    if 0 < report.pending then
      go patterns wish name (some 0) rest (report.pass patterns wish name line)
    else report
  | left, line :: rest, report =>
    if patterns.selects wish line then
      go patterns wish name (left.map (· - 1)) rest (report.select patterns wish name line)
    else go patterns wish name left rest (report.pass patterns wish name line)

/-- The number of selected lines, at most so many. -/
def countSelected (patterns : Patterns) (wish : Wish) (most : Option Nat)
    (lines : List FileLine) : Nat :=
  let count := lines.countP (patterns.selects wish)
  most.elim count (min count)

/-- A file with a null byte in it is no text. -/
def isBinary (wish : Wish) (content : Text) : Bool :=
  wish.forBinary != .text && content.contains (if wish.nullEnds then '\x80' else '\x00')

end JobShell.Toolbox.Search
