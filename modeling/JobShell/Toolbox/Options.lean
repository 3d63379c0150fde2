import JobShell.Toolbox.Call

/-!
Options on a command line.

Options may stand between the operands up to a double dash; short ones may be joined, and long ones
may be shortened as long as they stay unique.
-/

namespace JobShell.Toolbox

/-- Whether an option takes an argument. -/
inductive Wants
  | nothing | argument | maybe
  deriving DecidableEq

/-- The options that a program knows; a long one has the letter of the short one that means the
same. -/
structure OptionSet where
  short : List (Char × Wants) := []
  long : List (String × Wants × Char) := []

/-- An option that was given. -/
structure Given where
  letter : Char
  argument : Text := []
  hasArgument : Bool := false

/-- What a command line says: the options and operands up to the first fault. -/
structure CommandLine where
  options : List Given := []
  operands : List Text := []
  fault : Option Text := none

namespace OptionSet

/-- The long options that a name may stand for. -/
def candidates (set : OptionSet) (name : Text) : List (String × Wants × Char) :=
  match set.long.filter (·.1.toList == name) with
  | [] => set.long.filter fun o => name.isPrefixOf o.1.toList
  | exact => exact

/-- The options joined in one word, and whether the last took the word behind. -/
def joined (set : OptionSet) : List Char → Option Text → List Given × Option Text × Bool
  | [], _ => ([], none, false)
  | c :: rest, behind =>
    match set.short.lookup c with
    | none => ([], some ("invalid option -- '".toList ++ [c, '\'']), false)
    | some .nothing =>
      let (more, fault, took) := set.joined rest behind
      (⟨c, [], false⟩ :: more, fault, took)
    | some .maybe => ([⟨c, rest, !rest.isEmpty⟩], none, false)
    | some .argument =>
      if !rest.isEmpty then ([⟨c, rest, true⟩], none, false)
      else match behind with
        | some argument => ([⟨c, argument, true⟩], none, true)
        | none => ([], some ("option requires an argument -- '".toList ++ [c, '\'']), false)

/-- A long option, and whether it took the word behind. -/
def extended (set : OptionSet) (text : Text) (behind : Option Text) :
    List Given × Option Text × Bool :=
  let name := text.takeWhile (· != '=')
  let value := text.drop name.length
  let shown := fun (name : Text) => "option '--".toList ++ name ++ ['\'']
  match set.candidates name with
  | [] => ([], some ("unrecognized option '--".toList ++ text ++ ['\'']), false)
  | (full, wants, letter) :: others =>
    if others.any fun o => o.2.2 != letter || o.2.1 != wants then
      let possible := (full :: others.map (·.1)).flatMap fun n => " '--".toList ++ n.toList ++ ['\'']
      ([], some (shown text ++ " is ambiguous; possibilities:".toList ++ possible), false)
    else if wants = .nothing then
      if value.isEmpty then ([⟨letter, [], false⟩], none, false)
      else ([], some (shown full.toList ++ " doesn't allow an argument".toList), false)
    else if !value.isEmpty then ([⟨letter, value.drop 1, true⟩], none, false)
    else if wants = .maybe then ([⟨letter, [], false⟩], none, false)
    else match behind with
      | some argument => ([⟨letter, argument, true⟩], none, true)
      | none => ([], some (shown full.toList ++ " requires an argument".toList), false)

/-- Reads a command line; `skip` says that the word at the front has been taken already. -/
def read (set : OptionSet) (skip : Bool) : List Text → CommandLine
  | [] => {}
  | word :: rest =>
    if skip then set.read false rest
    else
      let behind := rest.head?
      let go := fun (taken : List Given × Option Text × Bool) =>
        match taken.2.1 with
        | some fault => ({ options := taken.1, fault } : CommandLine)
        | none =>
          let later := set.read taken.2.2 rest
          { later with options := taken.1 ++ later.options }
      match word with
      | ['-', '-'] => { operands := rest }
      | '-' :: '-' :: name => go (set.extended name behind)
      | '-' :: c :: letters => go (set.joined (c :: letters) behind)
      | word =>
        let later := set.read false rest
        { later with operands := word :: later.operands }

end OptionSet

namespace CommandLine

def has (line : CommandLine) (letter : Char) : Bool := line.options.any (·.letter == letter)

/-- The argument of the last option of a letter. -/
def argument? (line : CommandLine) (letter : Char) : Option Text :=
  ((line.options.filter (·.letter == letter)).getLast?).map (·.argument)

/-- The last of these letters that was given. -/
def last? (line : CommandLine) (letters : List Char) : Option Char :=
  ((line.options.filter fun o => letters.contains o.letter).getLast?).map (·.letter)

end CommandLine

end JobShell.Toolbox
