import JobShell.Text.Blank

/-!
Command lines.

A line is a command when some word is left after one background marker has been taken from its end.
`Command.parse` gives the command; the words are the maximal runs of characters that are not white
space, and no character has a special meaning but the marker.
-/

namespace JobShell

/-- A command line cut into words. -/
structure Command where
  /-- The line without its background marker. -/
  rawText : String
  /-- The first word. -/
  name : String
  /-- The words after the name. -/
  args : List String
  isBackground : Bool
  deriving DecidableEq, Repr, Inhabited

inductive ParseError
  /-- The line has no word. -/
  | empty
  deriving DecidableEq, Repr

def ParseError.message : ParseError → String
  | empty => "empty command"

namespace Command

/-- A line is run in the background when this is its last character but for white space. -/
def backgroundMarker : Char := '&'

/-- The name and the words after it. -/
def arguments (cmd : Command) : List String := cmd.name :: cmd.args

def argumentCount (cmd : Command) : Nat := cmd.arguments.length

/-- The words after the name in a list of all words; an empty list has no name. -/
def argsOf? : List String → Option (List String)
  | [] => none
  | _ :: args => some args

/-- The text before the background marker, if the line ends in one. -/
def beforeMarker? (line : List Char) : Option (List Char) :=
  match line.reverse.dropWhile Text.isBlank with
  | c :: rest => if c = backgroundMarker then some rest.reverse else none
  | [] => none

/-- The line without its marker, and whether it had one. -/
def unmarked (line : List Char) : List Char × Bool :=
  match beforeMarker? line with
  | some rest => (rest, true)
  | none => (line, false)

def parse (line : String) : Except ParseError Command :=
  let (raw, isBackground) := unmarked line.toList
  match Text.words raw with
  | [] => .error .empty
  | name :: args =>
    .ok ⟨String.ofList raw, String.ofList name, args.map String.ofList, isBackground⟩

/-- The words separated by single spaces, and the marker if there is one. -/
def render (cmd : Command) : String :=
  let text := " ".intercalate cmd.arguments
  if cmd.isBackground then text ++ " &" else text

end Command

end JobShell
