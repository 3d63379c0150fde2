import JobShell.Script.Job

/-!
What a command of the shell's own gives back, and how it reads its options.

Options stand before the operands, each a minus sign with one letter or several; a double dash ends
them, and so does the first word that is none.
-/

namespace JobShell.Script

open Toolbox

/-- What a command of the shell's own writes, and the status that it ends with. -/
structure Reply where
  output : Text := []
  status : Nat := 0
  /-- An error has been told of, which breaks off more than the command. -/
  breaks : Bool := false

namespace Reply

def ofStatus (status : Nat) : Reply := { status }

/-- A failure for a reason that a check gives. -/
def ofBool (b : Bool) : Reply := { status := if b then 0 else 1 }

def line (text : Text) : Text := text ++ ['\n']

end Reply

/-- A text in quotation marks, as a word that the shell reads back as this text.  Apostrophes stand
between double marks and all else between apostrophes. -/
def quoted (text : Text) : Text := '\'' :: go false text
where
  go (inDouble : Bool) : Text → Text
    | [] => [if inDouble then '"' else '\'']
    | c :: rest =>
      if c == '\'' then
        if inDouble then c :: go true rest else '\'' :: '"' :: c :: go true rest
      else if inDouble then '"' :: '\'' :: c :: go false rest
      else c :: go false rest

/-- Options that were given, with their arguments, and the operands behind them. -/
structure Flags where
  given : List (Char × Text) := []
  operands : List Text := []

namespace Flags

def has (flags : Flags) (letter : Char) : Bool := flags.given.any (·.1 == letter)

/-- The letters of options, and whether each takes an argument. -/
abbrev Known := List (Char × Bool)

/-- The options in one word, and whether the last of them took the word behind. -/
def joined (known : Known) : Text → Option Text → Except Text (List (Char × Text) × Bool)
  | [], _ => .ok ([], false)
  | c :: rest, behind =>
    match known.lookup c with
    | none => .error ("Illegal option -".toList ++ [c])
    | some false =>
      match joined known rest behind with
      | .ok (more, took) => .ok ((c, []) :: more, took)
      | .error e => .error e
    | some true =>
      if !rest.isEmpty then .ok ([(c, rest)], false)
      else match behind with
        | some argument => .ok ([(c, argument)], true)
        | none => .error ("No arg for -".toList ++ c :: " option".toList)

/-- Reads options; `skip` says that the first word has been taken already. -/
def read (known : Known) (skip : Bool) : List Text → Except Text Flags
  | [] => .ok {}
  | word :: rest =>
    if skip then read known false rest
    else match word with
      | ['-', '-'] => .ok { operands := rest }
      | '-' :: c :: letters =>
        match joined known (c :: letters) rest.head? with
        | .error e => .error e
        | .ok (given, took) =>
          match read known took rest with
          | .ok later => .ok { later with given := given ++ later.given }
          | .error e => .error e
      | _ => .ok { operands := word :: rest }

end Flags

namespace Acts

/-- The options among the arguments of a command. -/
def flags (known : Flags.Known) (arguments : List Text) : Acts Flags :=
  match Flags.read known false arguments with
  | .ok flags => pure flags
  | .error fault => fail fault

/-- The operands of a command without options. -/
def operands (arguments : List Text) : Acts (List Text) := do
  pure (← flags [] arguments).operands

end Acts

end JobShell.Script
