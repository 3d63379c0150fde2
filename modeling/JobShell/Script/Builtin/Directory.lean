import JobShell.Script.Builtin.Reply

/-!
The working directory of the shell.

The shell remembers the way that led to its directory.  A new way is worked out from the text alone,
so that two dots lead back where the way came from; with `-P` links count as what they lead to.
-/

namespace JobShell.Script.Directory

open Machine Toolbox

/-- The names in a path. -/
def names (path : Text) : List Text := (path.splitOn '/').filter (!·.isEmpty)

/-- Follows names from the front of a way; the way is kept backwards. -/
def follow : List Text → List Text → List Text
  | way, [] => way.reverse
  | way, name :: rest =>
    if name = ['.'] then follow way rest
    else if name = ['.', '.'] then follow (way.drop 1) rest
    else follow (name :: way) rest

/-- Two slashes at the front differ from one, and from more than two. -/
def rootOf (path : Text) : Text :=
  match path with
  | '/' :: '/' :: '/' :: _ => ['/']
  | '/' :: '/' :: _ => ['/', '/']
  | _ => ['/']

/-- The way to a directory; there is none from a directory that nothing is known of. -/
def way? (present : Option Text) (target : Text) : Option Text :=
  if target.head? = some '/' then
    some (rootOf target ++ List.intercalate ['/'] (follow [] (names target)))
  else present.map fun here =>
    rootOf here ++ List.intercalate ['/'] (follow (names here).reverse (names target))

/-- The directory without links, or nothing with a complaint. -/
def physical : Acts (Option Text) := do
  match ← Acts.ask .directoryPath with
  | .ok path => pure (some (Bytes.toLatin path))
  | .error e => do
    Acts.warn ("getcwd() failed: ".toList ++ e.wording.toList)
    pure none

/-- Remembers a new directory; `keepsOld` tells whether the old one is remembered too. -/
def remember (way : Option Text) (keepsOld : Bool) : Acts Unit := do
  let old := ((← get).directory).getD []
  if keepsOld then Acts.setVariable "OLDPWD".toList old true
  let directory ← match way with
    | some way => pure (some way)
    | none => physical
  modify fun s => { s with directory }
  Acts.setVariable "PWD".toList (directory.getD []) true

/-- Goes to a directory; gives whether that was possible. -/
def enter (isPhysical : Bool) (target : Text) : Acts Bool := do
  let s ← get
  let way := if isPhysical then none else way? s.directory target
  match ← Acts.ask (.changeDirectory (path (way.getD target))) with
  | .error _ => pure false
  | .ok () => do
    remember way true
    modify fun s => { s with hashed := s.hashed.map fun (name, place, _) => (name, place, true) }
    pure true

/-- Whether a name is looked for in several directories. -/
def isSearched (target : Text) : Bool :=
  match target with
  | '/' :: _ | ['.'] | ['.', '.'] | '.' :: '/' :: _ | '.' :: '.' :: '/' :: _ => false
  | _ => true

def isDirectory (text : Text) : Acts Bool := do
  match ← Acts.ask (.inspect (path text) true) with
  | .ok facts => pure (facts.kind == .directory)
  | .error _ => pure false

/-- The first of several places in which a name is a directory, and whether the place has a name. -/
def search (target : Text) : List Text → Acts (Option (Text × Bool))
  | [] => pure none
  | place :: rest => do
    let candidate := if place.isEmpty then target else place ++ '/' :: target
    if ← isDirectory candidate then pure (some (candidate, !place.isEmpty))
    else search target rest

/-- Whether the last of the options asks for a directory without links. -/
def isPhysical (flags : Flags) : Bool := (flags.given.getLast?.map (·.1)) == some 'P'

def known : Flags.Known := [('L', false), ('P', false)]

def homeName : Text := "HOME".toList
def oldName : Text := "OLDPWD".toList
def searchName : Text := "CDPATH".toList

/-- Changes the working directory. -/
def change (arguments : List Text) : Acts Reply := do
  let flags ← Acts.flags known arguments
  let s ← get
  let isBack := flags.operands.head? == some ['-']
  let target := match flags.operands with
    | [] => (s.valueOf? homeName).getD []
    | word :: _ => if isBack then (s.valueOf? oldName).getD [] else word
  let places := match s.valueOf? searchName with
    | some places => if isSearched target then places.splitOn ':' else []
    | none => []
  let target := if target.isEmpty then ['.'] else target
  let found ← search target places
  let (target', isNamed) := found.getD (target, false)
  if !(← enter (isPhysical flags) target') then Acts.fail ("can't cd to ".toList ++ target)
  if isBack || isNamed then pure { output := Reply.line (((← get).directory).getD []) }
  else pure {}

/-- Shows the working directory. -/
def showPath (arguments : List Text) : Acts Reply := do
  let flags ← Acts.flags known arguments
  let shown ← if isPhysical flags then physical else do pure (← get).directory
  pure { output := Reply.line (shown.getD []) }

end JobShell.Script.Directory
