import JobShell.Script.FileNames

/-!
Redirections.

Before a descriptor is given another file, it is put aside where no program sees it, and taken back
afterwards.
-/

namespace JobShell.Script

open Machine Toolbox

namespace Redirect

/-- What a descriptor is to stand for. -/
inductive Source
  | file (access : Access) (name : Text)
  | copy (descriptor : Nat)
  | nothing
  | text (text : Text)

/-- What went wrong with a file; `makes` tells whether it was to be made. -/
def reason (makes : Bool) (e : Errno) : Text :=
  if e = Errno.noEntry || e = Errno.notDirectory then
    (if makes then "Directory nonexistent" else "No such file").toList
  else e.wording.toList

/-- A word that is to name a descriptor does not; by then the line has been read. -/
def badDescriptor {α : Type} : Acts α := do
  modify fun s => { s with line := s.lineRead }
  Acts.failWith "Syntax error: Bad fd number"

/-- Expands a redirection. -/
def prepare (substitute : Expansion.Substitute) : Redirection → Acts (Nat × Source)
  | .file descriptor access name => do
    pure (descriptor, .file access (← Expansion.text substitute { tilde := true } name))
  | .copy descriptor source => do
    match ← Expansion.text substitute { tilde := true } source with
    | ['-'] => pure (descriptor, .nothing)
    | [c] =>
      if c.isDigit then pure (descriptor, .copy (Text.digitValue c))
      else badDescriptor
    | _ => badDescriptor
  | .document descriptor number expands => do
    let word := ((← get).documents.lookup number).getD []
    if expands then
      pure (descriptor, .text (← Expansion.text substitute { isQuoted := true } word))
    else pure (descriptor, .text word.bare)

def prepareAll (substitute : Expansion.Substitute) :
    List Redirection → Acts (List (Nat × Source))
  | [] => pure []
  | r :: rest => do
    let first ← prepare substitute r
    pure (first :: (← prepareAll substitute rest))

/-- The longest text that a pipe is sure to take at once. -/
def atOnce : Nat := 4096

/-- A descriptor from which a text can be read. -/
def openText (text : Text) : Acts Nat := do
  let (reads, writes) ← Acts.ask .pipe
  if text.length ≤ atOnce then
    let _ ← Acts.write writes text
  else
    let writer : Doing Nat := do
      Doing.ask (.close reads)
      let _ ← Toolbox.write writes text
      pure 0
    let _ ← Acts.lift (Doing.fork writer.work)
  Acts.ask (.close writes)
  pure reads

def opened (makes : Bool) (name : Text) : Except Errno Nat → Acts Nat
  | .ok descriptor => pure descriptor
  | .error e => do
    let action := if makes then "cannot create " else "cannot open "
    Acts.fail (action.toList ++ name ++ ": ".toList ++ reason makes e)

/-- Opens a file for writing where no file may be overwritten. -/
def openNew (name : Text) : Acts Nat := do
  let path := Toolbox.path name
  match ← Acts.ask (.inspect path true) with
  | .error _ =>
    opened true name (← Acts.ask (.openFile path { writes := true, creates := true, isNew := true }))
  | .ok facts =>
    if facts.kind = .file then opened true name (.error .fileExists)
    else opened true name (← Acts.ask (.openFile path { writes := true }))

/-- Opens what a descriptor is to stand for; a copy is not opened. -/
def openSource : Source → Acts (Option Nat)
  | .file access name => do
    let path := Toolbox.path name
    let ask := fun (how : Opening) => Acts.ask (.openFile path how)
    let made : Opening := { writes := true, creates := true }
    some <$> match access with
      | .from_ => do opened false name (← ask { reads := true })
      | .both => do opened true name (← ask { made with reads := true })
      | .append => do opened true name (← ask { made with appends := true })
      | .clobber => do opened true name (← ask { made with truncates := true })
      | .to_ => do
        if (← get).has .noOverwriting then openNew name
        else opened true name (← ask { made with truncates := true })
  | .copy _ | .nothing => pure none
  | .text text => do pure (some (← openText text))

/-- Descriptors that have been put aside, each with its copy if it was open. -/
abbrev Aside := List (Nat × Option Nat)

/-- Where descriptors that are put aside are numbered from. -/
def firstAside : Nat := 10

/-- Puts a descriptor aside, unless that has been done before. -/
def putAside (descriptor : Nat) (aside : Aside) : Acts Aside := do
  if aside.any (·.1 == descriptor) then pure aside
  else
    match ← Acts.ask (.copy descriptor firstAside) with
    | .ok copy => do
      Acts.ask (.close descriptor)
      pure ((descriptor, some copy) :: aside)
    | .error _ => pure ((descriptor, none) :: aside)

/-- Makes one descriptor stand for another file; `keeps` tells whether the old one is put aside.
Gives also what is to be complained of. -/
def apply (keeps : Bool) (descriptor : Nat) (source : Source) (aside : Aside) :
    Acts (Aside × Option Text) := do
  match source with
  | .copy n =>
    if n = descriptor then pure (aside, none)
    else do
      let aside ← if keeps then putAside descriptor aside else pure aside
      match ← Acts.ask (.copyTo n descriptor) with
      | .ok () => pure (aside, none)
      | .error e => pure (aside, some (Text.decimal n ++ ": ".toList ++ e.wording.toList))
  | .nothing => do
    let aside ← if keeps then putAside descriptor aside else pure aside
    Acts.ask (.close descriptor)
    pure (aside, none)
  | source =>
    match ← openSource source with
    | none => pure (aside, none)
    | some new =>
      if new = descriptor then
        pure (if keeps && !aside.any (·.1 == descriptor) then (descriptor, none) :: aside else aside,
          none)
      else do
        let aside ← if keeps then putAside descriptor aside else pure aside
        let _ ← Acts.ask (.copyTo new descriptor)
        Acts.ask (.close new)
        pure (aside, none)

/-- Carries out redirections in turn; gives what has been put aside, and what broke it off. -/
def applyAll (keeps : Bool) : List (Nat × Source) → Aside → Acts (Aside × Option Break)
  | [], aside => pure (aside, none)
  | (descriptor, source) :: rest, aside => do
    match ← Acts.caught (apply keeps descriptor source aside) with
    | .error why => pure (aside, some why)
    | .ok (aside, none) => applyAll keeps rest aside
    | .ok (aside, some complaint) =>
      match ← Acts.caught (Acts.fail (α := Unit) complaint) with
      | .error why => pure (aside, some why)
      | .ok () => applyAll keeps rest aside

/-- Takes back what has been put aside; `forGood` leaves the redirections as they are. -/
def takeBack (forGood : Bool) : Aside → Acts Unit
  | [] => pure ()
  | (descriptor, copy) :: rest => do
    match copy with
    | some copy =>
      if !forGood then
        let _ ← Acts.ask (.copyTo copy descriptor)
      Acts.ask (.close copy)
    | none => if !forGood then Acts.ask (.close descriptor)
    takeBack forGood rest

end Redirect

end JobShell.Script
