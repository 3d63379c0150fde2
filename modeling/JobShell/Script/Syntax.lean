import JobShell.Toolbox.Text

/-!
Commands of the system shell, as they are read.

A word keeps what has been quoted in it, because quotation decides what may be done with the
characters when the word is expanded.
-/

namespace JobShell.Script

open Toolbox

/-- What is asked of a parameter. -/
inductive Use
  /-- Nothing that the shell knows. -/
  | unknown
  | value
  /-- The word if the parameter is not set. -/
  | otherwise
  /-- The word if the parameter is set. -/
  | instead
  /-- A complaint with the word if the parameter is not set. -/
  | demand
  /-- The word if the parameter is not set, which it is then set to. -/
  | assign
  /-- The value without what a pattern matches at one of its ends. -/
  | trim (fromLeft : Bool) (greedy : Bool)
  | length
  deriving DecidableEq, Repr, Inhabited

/-- How a redirection opens a file. -/
inductive Access
  | from_ | to_ | clobber | append | both
  deriving DecidableEq, Repr, Inhabited

mutual

/-- A piece of a word. -/
inductive Piece
  | char (c : Char)
  /-- A character that stands for itself. -/
  | literal (c : Char)
  /-- A quotation mark, which has no text. -/
  | mark
  /-- A parameter; `orNull` counts one with an empty value as not set. -/
  | parameter (name : Text) (use : Use) (orNull : Bool) (word : List Piece)
  /-- The output of commands. -/
  | output (body : Option Command)
  /-- The value of an arithmetic expression. -/
  | sum (expression : List Piece)

inductive Redirection
  | file (descriptor : Nat) (access : Access) (name : List Piece)
  /-- A copy of a descriptor, or its end if the word is a dash. -/
  | copy (descriptor : Nat) (source : List Piece)
  /-- A here-document with its number among those that have been read. -/
  | document (descriptor : Nat) (number : Nat) (expands : Bool)

inductive Command
  | simple (line : Nat) (assignments words : List (List Piece)) (redirections : List Redirection)
  | pipeline (commands : List Command) (isBackground : Bool)
  | redirected (line : Nat) (body : Command) (redirections : List Redirection)
  | background (line : Nat) (body : Command) (redirections : List Redirection)
  | subshell (line : Nat) (body : Option Command) (redirections : List Redirection)
  | both (first second : Command)
  | either (first second : Command)
  | sequence (first second : Command)
  | choice (condition yes : Option Command) (no : Option Command)
  | loop (untilTrue : Bool) (condition body : Option Command)
  | each (line : Nat) (name : Text) (words : List (List Piece)) (body : Option Command)
  | select (line : Nat) (word : List Piece) (branches : List (List (List Piece) × Option Command))
  | define (line : Nat) (name : Text) (body : Command)
  | negated (body : Command)

end

instance : Inhabited Piece := ⟨.mark⟩
instance : Inhabited Command := ⟨.simple 0 [] [] []⟩
instance : Inhabited Redirection := ⟨.copy 0 []⟩

abbrev Word := List Piece

namespace Word

/-- The text of a word in which nothing is quoted or to be expanded. -/
def plain? (word : Word) : Option Text :=
  word.foldr (fun piece text => match piece with
    | .char c => text.map (c :: ·)
    | _ => none) (some [])

/-- The characters of a word, quoted or not. -/
def bare (word : Word) : Text :=
  word.filterMap fun
    | .char c | .literal c => some c
    | _ => none

/-- The name in front of an equals sign at the front of a word, and what is behind. -/
def assignment? : Word → Option (Text × Word) := go []
where
  go (name : Text) : Word → Option (Text × Word)
    | .char '=' :: rest => if name.isEmpty then none else some (name.reverse, rest)
    | .char c :: rest =>
      if Text.isNameStart c || (!name.isEmpty && Text.isNameChar c) then go (c :: name) rest else none
    | _ => none

def ofText (text : Text) : Word := text.map .char

end Word

/-- Words that have a meaning where a command may start. -/
inductive Keyword
  | not_ | case_ | do_ | done_ | elif | else_ | esac | fi | for_ | if_ | in_ | then_ | until_
  | while_ | begin_ | end_
  deriving DecidableEq, Repr, Inhabited

def Keyword.all : List (String × Keyword) :=
  [("!", .not_), ("case", .case_), ("do", .do_), ("done", .done_), ("elif", .elif),
   ("else", .else_), ("esac", .esac), ("fi", .fi), ("for", .for_), ("if", .if_), ("in", .in_),
   ("then", .then_), ("until", .until_), ("while", .while_), ("\x7b", .begin_), ("\x7d", .end_)]

def Keyword.ofText? (text : Text) : Option Keyword :=
  (Keyword.all.find? (·.1.toList == text)).map (·.2)

def Keyword.text (keyword : Keyword) : String :=
  ((Keyword.all.find? (·.2 == keyword)).map (·.1)).getD ""

inductive Token
  | endOfInput | newline | semicolon | ampersand | and_ | or_ | bar | open_ | close | endOfBranch
  | redirection | word
  | keyword (keyword : Keyword)
  deriving DecidableEq, Repr, Inhabited

/-- How messages name a token. -/
def Token.text : Token → String
  | .endOfInput => "end of file"
  | .newline => "newline"
  | .semicolon => "\";\""
  | .ampersand => "\"&\""
  | .and_ => "\"&&\""
  | .or_ => "\"||\""
  | .bar => "\"|\""
  | .open_ => "\"(\""
  | .close => "\")\""
  | .endOfBranch => "\";;\""
  | .redirection => "redirection"
  | .word => "word"
  | .keyword k => "\"" ++ k.text ++ "\""

/-- Tokens at which a list of commands may end. -/
def Token.endsList : Token → Bool
  | .endOfInput | .close | .endOfBranch => true
  | .keyword k => [.do_, .done_, .elif, .else_, .esac, .fi, .then_, .end_].contains k
  | _ => false

end JobShell.Script
