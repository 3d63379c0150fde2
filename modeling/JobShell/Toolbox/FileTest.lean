import JobShell.Toolbox.Call
import JobShell.Toolbox.Number

/-!
Tests of files, as conditions name them by a letter.
-/

namespace JobShell.Toolbox.FileTest

open Machine

/-- The file that a path leads to. -/
def facts? (text : Text) (follow : Bool := true) : Doing (Option Facts) := do
  match ← Doing.ask (.inspect (path text) follow) with
  | .ok facts => pure (some facts)
  | .error _ => pure none

/-- The letters of tests of a file. -/
def letters : Text := "bcdefghkprsuwxGLNOS".toList

def hasBits (facts : Facts) (bits : Nat) : Bool := facts.permissions &&& bits != 0

/-- Whether the one who may do everything may run the file or pass through it. -/
def isPassable (facts : Facts) : Bool :=
  facts.kind == .directory || hasBits facts 0o111

/-- The test with a letter on a file that is there. -/
def holds (letter : Char) (facts : Facts) : Bool :=
  match letter with
  | 'b' | 'p' | 'S' => facts.kind == .pipe && letter == 'p'
  | 'c' => facts.kind == .device
  | 'd' => facts.kind == .directory
  | 'f' => facts.kind == .file
  | 'g' => hasBits facts 0o2000
  | 'h' | 'L' => facts.kind == .link
  | 'k' => hasBits facts 0o1000
  | 's' => facts.size != 0
  | 'u' => hasBits facts 0o4000
  | 'x' => isPassable facts
  | 'N' => false
  | _ => true

def ofFile (letter : Char) (text : Text) : Doing Bool := do
  match ← facts? text (letter != 'h' && letter != 'L') with
  | some facts => pure (holds letter facts)
  | none => pure false

/-- Whether two paths lead to one file. -/
def isSame (left right : Text) : Doing Bool := do
  let a ← facts? left
  let b ← facts? right
  pure (match a, b with
    | some a, some b => a.node == b.node
    | _, _ => false)

/-- Whether the left file is newer than the right one, or there is no right one. -/
def isNewer (left right : Text) : Doing Bool := do
  let a ← facts? left
  let b ← facts? right
  pure (match a, b with
    | some a, some b => a.modified > b.modified
    | some _, none => true
    | none, _ => false)

end JobShell.Toolbox.FileTest
