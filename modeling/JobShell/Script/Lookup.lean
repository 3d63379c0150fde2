import JobShell.Script.Builtin.Basic
import JobShell.Machine.Launch

/-!
What the name of a command stands for.

A name with a slash is the path of a program.  Any other may be a function, a command of the shell's
own, or a file in one of the directories of the search path.
-/

namespace JobShell.Script

open Machine Toolbox

inductive Found
  | function (body : Command)
  | own (builtin : Builtin)
  /-- A program; `place` tells in which directory of the search path it is. -/
  | program (path : Text) (place : Nat)
  | missing (errno : Errno)

namespace Lookup

/-- The path of a name in a directory; an empty directory is the present one. -/
def pathIn (directory name : Text) : Text :=
  if directory.isEmpty then name else directory ++ '/' :: name

/-- The directories of a search path; those with a remark are passed over. -/
def directories (searchPath : Text) : List Text := searchPath.splitOn ':'

def isPlain (directory : Text) : Bool := !directory.contains '%'

/-- Looks for a file in directories, of which so many have been passed. -/
def file? (name : Text) (errno : Errno) (place : Nat) : List Text → Acts Found
  | [] => pure (.missing errno)
  | directory :: rest => do
    if !isPlain directory then file? name errno (place + 1) rest
    else
      let path := pathIn directory name
      match ← Acts.ask (.inspect (Toolbox.path path) true) with
      | .ok facts =>
        if facts.kind = .file then pure (.program path place)
        else file? name Errno.access (place + 1) rest
      | .error e =>
        let passes := e = Errno.noEntry || e = Errno.notDirectory
        file? name (if passes then errno else e) (place + 1) rest

/-- Remembers where a command is. -/
def note (name path : Text) : Acts Unit :=
  modify fun s =>
    if s.hashed.any (·.1 == name) then
      { s with hashed := s.hashed.map fun h => if h.1 == name then (name, path, false) else h }
    else { s with hashed := s.hashed ++ [(name, path, false)] }

/-- Finds what a name stands for, along a search path other than the usual one if one is given;
`checks` tells whether a path has to lead to something. -/
def find (name : Text) (takesFunctions checks : Bool) (path : Option Text) : Acts Found := do
  let s ← get
  if name.contains '/' then
    if checks then
      match ← Acts.ask (.inspect (Toolbox.path name) true) with
      | .ok _ => pure (.program name 0)
      | .error e => pure (.missing e)
    else pure (.program name 0)
  else match if takesFunctions then s.functions.lookup name else none, Builtin.ofName? name with
    | some body, _ => pure (.function body)
    | none, some builtin => pure (.own builtin)
    | none, none => do
      let found ← file? name Errno.noEntry 0 (directories (path.getD s.searchPath))
      match found with
      | .program place _ => if path.isNone then note name place
      | _ => pure ()
      pure found

/-- Why a command cannot be had. -/
def reason (e : Errno) : Text :=
  if e = Errno.noEntry || e = Errno.notDirectory then "not found".toList else e.wording.toList

/-- Says that a command is missing. -/
def warnMissing (name : Text) (e : Errno) : Acts Unit :=
  Acts.warn (name ++ ": ".toList ++ reason e)

/-- Programs are known in a table of so many rows. -/
def rowCount : Nat := 31

/-- The programs that are remembered, row by row. -/
def listed (s : State) : Text :=
  (List.range rowCount).flatMap fun n =>
    (s.hashed.filter fun h => Alias.row rowCount h.1 = n).flatMap fun (_, path, isDoubtful) =>
      Reply.line (path ++ (if isDoubtful then ['*'] else []))

def noteAll (status : Nat) : List Text → Acts Reply
  | [] => pure (.ofStatus status)
  | name :: rest => do
    modify fun s => { s with hashed := s.hashed.filter (·.1 != name) }
    match ← find name true false none with
    | .missing e => do
      warnMissing name e
      noteAll 1 rest
    | _ => noteAll status rest

/-- Shows, forgets or remembers where programs are. -/
def hash (arguments : List Text) : Acts Reply := do
  let flags ← Acts.flags [('r', false)] arguments
  if flags.has 'r' then do
    modify fun s => { s with hashed := [] }
    pure {}
  else if flags.operands.isEmpty then do pure { output := listed (← get) }
  else noteAll 0 flags.operands

/-- How a program is described that is remembered or not. -/
def programText (isKnown : Bool) (path : Text) : Text :=
  (if isKnown then " is a tracked alias for ".toList else " is ".toList) ++ path

/-- Says what a name stands for, at length or as a word that stands for the same. -/
def describe (isLong : Bool) (path : Option Text) (name : Text) : Acts Reply := do
  let s ← get
  let say := fun (long short : Text) =>
    ({ output := Reply.line (if isLong then name ++ long else short) } : Reply)
  if (Keyword.ofText? name).isSome then pure (say " is a shell keyword".toList name)
  else match s.aliases.lookup name with
    | some value =>
      pure (say (" is an alias for ".toList ++ value) ("alias ".toList ++ name ++ '=' :: quoted value))
    | none => do
      let isKnown := path.isNone && (s.hashed.any (·.1 == name))
      match ← find name true true path with
      | .function _ => pure (say " is a shell function".toList name)
      | .own builtin =>
        let kind := if builtin.isSpecial then " is a special shell builtin" else " is a shell builtin"
        pure (say kind.toList name)
      | .program path _ => pure (say (programText isKnown path) path)
      | .missing _ =>
        pure { output := if isLong then Reply.line (name ++ ": not found".toList) else []
               status := 127 }

def describeAll (isLong : Bool) (path : Option Text) (reply : Reply) : List Text → Acts Reply
  | [] => pure reply
  | name :: rest => do
    let more ← describe isLong path name
    describeAll isLong path
      { reply with output := reply.output ++ more.output, status := reply.status ||| more.status }
      rest

/-! ### Carrying out a program -/

/-- The status with which a program that cannot be carried out is given up. -/
def givenUp (e : Errno) : Nat :=
  if [Errno.loop, .nameTooLong, .noEntry, .notDirectory].contains e then 127 else 126

/-- Goes over to a program in one of several directories; answers why that failed. -/
def tryAll (name : Text) (words : List Bytes) (env : Environment) (e : Errno) :
    List Text → Doing Errno
  | [] => pure e
  | directory :: rest =>
    if !isPlain directory then tryAll name words env e rest
    else do
      let why ← Launch.execute (Toolbox.path (pathIn directory name)) words env
      let passes := why = Errno.noEntry || why = Errno.notDirectory
      tryAll name words env (if passes then e else why) rest

/-- Goes over to a program; says why if that fails, and leaves. -/
def become (words : List Text) (path : Option Text) (place : Nat) : Acts Unit := do
  let s ← get
  let name := words.head?.getD []
  let bytes := words.map Toolbox.path
  let why ← if name.contains '/' then
      Acts.lift (Launch.execute (Toolbox.path name) bytes s.environment)
    else
      let places := (directories (path.getD s.searchPath)).drop place
      Acts.lift (tryAll name bytes s.environment Errno.noEntry places)
  Acts.setStatus (givenUp why)
  warnMissing name why
  throw .leave

end Lookup

end JobShell.Script
