import JobShell.Toolbox.Options

/-!
Making and removing directories, and the path of the working directory.
-/

namespace JobShell.Toolbox.Directories

open Machine

/-- What has been written and whether anything has failed. -/
structure Tally where
  out : Text := []
  hasFailed : Bool := false

def Tally.failed (tally : Tally) : Tally := { tally with hasFailed := true }

/-- Works through operands one by one. -/
def forEach (work : Text → Tally → Doing Tally) : List Text → Tally → Doing Tally
  | [], tally => pure tally
  | operand :: rest, tally => do forEach work rest (← work operand tally)

def finish (call : Call) (tally : Tally) : Doing Nat :=
  call.finish tally.out (if tally.hasFailed then 1 else 0)

/-! ### Permission modes -/

/-- The bits that a letter of a mode stands for, in all three places. -/
def modeBits : Char → Nat
  | 'r' => 0o444
  | 'w' => 0o222
  | 'x' | 'X' => 0o111
  | 's' => 0o6000
  | 't' => 0o1000
  | _ => 0

/-- The bits that belong to a class of users. -/
def classBits : Char → Nat
  | 'u' => 0o4700
  | 'g' => 0o2070
  | 'o' => 0o1007
  | _ => 0o7777

/-- The permissions after the operators of one clause. -/
def clause (users : Text) : Nat → Text → Nat → Option Nat
  | 0, _, _ => none
  | _ + 1, [], mode => some mode
  | fuel + 1, op :: rest, mode =>
    if op != '+' && op != '-' && op != '=' then none
    else
      let letters := rest.takeWhile fun c => "rwxXst".toList.contains c
      let mask := if users.isEmpty then 0o7777 else (users.map classBits).foldl (· ||| ·) 0
      let wanted := (letters.map modeBits).foldl (· ||| ·) 0 &&& mask
      let allowed := if users.isEmpty then wanted &&& 0o7755 else wanted
      let after :=
        if op == '+' then mode ||| allowed
        else if op == '-' then mode &&& (0o7777 - allowed)
        else (mode &&& (0o7777 - mask)) ||| allowed
      clause users fuel (rest.drop letters.length) after

/-- The permissions that a mode makes of others; a number stands for itself. -/
def mode? (text : Text) (usual : Nat) : Option Nat :=
  if text.isEmpty then none
  else if text.all Text.isOctal then
    let n := Text.valueOf 8 text
    if n ≤ 0o7777 then some n else none
  else
    (text.splitOn ',').foldl (fun mode part => mode.bind fun m =>
      let users := part.takeWhile fun c => "ugoa".toList.contains c
      let operators := part.drop users.length
      if operators.isEmpty then none else clause users (operators.length + 1) operators m) (some usual)

/-! ### Making -/

def makeOptions : OptionSet where
  short := [('p', .nothing), ('m', .argument), ('v', .nothing), ('Z', .nothing)]
  long := [("context", .maybe, 'Z'), ("mode", .argument, 'm'), ("parents", .nothing, 'p'),
    ("verbose", .nothing, 'v'), ("help", .nothing, '?'), ("version", .nothing, '?')]

/-- How directories are to be made. -/
structure Making where
  parents : Bool
  verbose : Bool
  permissions : Nat

def created (call : Call) (making : Making) (name : Text) (tally : Tally) : Tally :=
  if making.verbose then
    { tally with
      out := tally.out ++ call.message ("created directory ".toList ++ Text.named name) }
  else tally

def cannotCreate (call : Call) (name : Text) (e : Errno) (tally : Tally) : Doing Tally := do
  complain (call.message (Call.because ("cannot create directory ".toList ++ Text.named name) e))
  pure tally.failed

/-- The paths of the directories above the last, without single dots. -/
def ancestors (behind : Text) : Text → List Text
  | [] => []
  | c :: rest =>
    let later := ancestors (behind ++ [c]) rest
    let name := ((behind.reverse.takeWhile (· != '/')).reverse)
    if c == '/' && !name.isEmpty && name != ['.'] && rest.any (· != '/') then behind :: later
    else later

/-- The permissions of directories that are made on the way. -/
def wayPermissions : Nat := 0o755

/-- Makes a directory on the way; gives an error if it cannot be passed. -/
def makeWay (name : Text) : Doing (Except Errno Bool) := do
  let base := (name.reverse.takeWhile (· != '/')).reverse
  let made ← if base = ['.', '.'] then pure (Except.ok ())
    else Doing.ask (.makeDirectory (path name) wayPermissions)
  let isMade := match made with
    | .ok () => base != ['.', '.']
    | .error _ => false
  match ← Doing.ask (.inspect (path name) true) with
  | .ok facts =>
    pure (if facts.kind = .directory then .ok isMade else .error Errno.notDirectory)
  | .error e =>
    pure (.error (match made with
      | .error first => if e = Errno.noEntry then first else e
      | .ok () => e))

def makeWays (call : Call) (making : Making) : List Text → Tally → Doing (Tally × Bool)
  | [], tally => pure (tally, true)
  | name :: rest, tally => do
    match ← makeWay name with
    | .ok isMade =>
      makeWays call making rest (if isMade then created call making name tally else tally)
    | .error e => do
      let after ← cannotCreate call name e tally
      pure (after, false)

def makeOne (call : Call) (making : Making) (name : Text) (tally : Tally) : Doing Tally := do
  let (tally, goesOn) ← if making.parents then makeWays call making (ancestors [] name) tally
    else pure (tally, true)
  if !goesOn then pure tally
  else
    match ← Doing.ask (.makeDirectory (path name) making.permissions) with
    | .ok () => pure (created call making name tally)
    | .error e =>
      if !making.parents then cannotCreate call name e tally
      else
        match ← Doing.ask (.inspect (path name) true) with
        | .ok facts =>
          if facts.kind = .directory then pure tally else cannotCreate call name e tally
        | .error other =>
          if e != Errno.noEntry && other != Errno.noEntry && other != Errno.notDirectory then do
            complain (call.message (Call.because ("cannot stat ".toList ++ Text.named name) other))
            pure tally.failed
          else cannotCreate call name e tally

def make (call : Call) : Doing Nat := do
  let line := makeOptions.read false call.arguments
  match line.fault with
  | some fault => call.misuse fault
  | none =>
    if line.operands.isEmpty then call.misuse "missing operand".toList
    else
      let usual := 0o755
      match match line.argument? 'm' with
        | some text => mode? text 0o777
        | none => some usual with
      | none => do
        let text := (line.argument? 'm').getD []
        complain (call.message ("invalid mode ".toList ++ Text.told text))
        pure 1
      | some permissions =>
        let making := { parents := line.has 'p', verbose := line.has 'v', permissions }
        finish call (← forEach (makeOne call making) line.operands {})

/-! ### Removing -/

def removeOptions : OptionSet where
  short := [('p', .nothing), ('v', .nothing)]
  long := [("ignore-fail-on-non-empty", .nothing, 'i'), ("path", .nothing, 'p'),
    ("parents", .nothing, 'p'), ("help", .nothing, '?'), ("version", .nothing, '?'),
    ("verbose", .nothing, 'v')]

/-- How directories are to be removed. -/
structure Removing where
  parents : Bool
  verbose : Bool
  /-- Directories that are not empty are left without a word. -/
  spares : Bool

def announced (call : Call) (removing : Removing) (name : Text) (tally : Tally) : Tally :=
  if removing.verbose then
    { tally with
      out := tally.out ++ call.message ("removing directory, ".toList ++ Text.named name) }
  else tally

def withoutSlashes (name : Text) : Text :=
  let bare := (name.reverse.dropWhile (· == '/')).reverse
  if bare.isEmpty && !name.isEmpty then ['/'] else bare

/-- The path of the directory above, if the path has more than one part. -/
def above? (name : Text) : Option Text :=
  if name.contains '/' then
    let before := ((name.reverse.dropWhile (· != '/')).dropWhile (· == '/')).reverse
    some (if before.isEmpty then ['/'] else before)
  else none

/-- Whether a name with a slash behind it is a link that was not followed. -/
def isUnfollowed (name : Text) : Doing Bool := do
  if name.getLast? != some '/' then pure false
  else
    let leads ← Doing.ask (.inspect (path name) true)
    let mayLead := match leads with
      | .ok facts => facts.kind == .directory
      | .error e => e != Errno.notDirectory
    match ← Doing.ask (.inspect (path (withoutSlashes name)) false) with
    | .ok facts => pure (mayLead && facts.kind == .link)
    | .error _ => pure false

/-- Removes the directories above one that has been removed. -/
def removeAbove (call : Call) (removing : Removing) : Nat → Text → Tally → Doing Tally
  | 0, _, tally => pure tally
  | fuel + 1, name, tally =>
    match above? name with
    | none => pure tally
    | some name => do
      let tally := announced call removing name tally
      match ← Doing.ask (.removeDirectory (path name)) with
      | .ok () => removeAbove call removing fuel name tally
      | .error e =>
        if removing.spares && (e = Errno.notEmpty || e = Errno.fileExists) then pure tally
        else do
          let what := if e = Errno.notDirectory then "failed to remove "
            else "failed to remove directory "
          complain (call.message (Call.because (what.toList ++ Text.named name) e))
          pure tally.failed

def removeOne (call : Call) (removing : Removing) (name : Text) (tally : Tally) : Doing Tally := do
  let tally := announced call removing name tally
  match ← Doing.ask (.removeDirectory (path name)) with
  | .ok () =>
    if removing.parents then removeAbove call removing name.length (withoutSlashes name) tally
    else pure tally
  | .error e =>
    if removing.spares && (e = Errno.notEmpty || e = Errno.fileExists) then pure tally
    else do
      let what := "failed to remove ".toList ++ Text.named name
      if e = Errno.notDirectory && (← isUnfollowed name) then
        complain (call.message (what ++ ": Symbolic link not followed".toList))
      else complain (call.message (Call.because what e))
      pure tally.failed

def remove (call : Call) : Doing Nat := do
  let line := removeOptions.read false call.arguments
  match line.fault with
  | some fault => call.misuse fault
  | none =>
    if line.operands.isEmpty then call.misuse "missing operand".toList
    else
      let removing : Removing :=
        { parents := line.has 'p', verbose := line.has 'v', spares := line.has 'i' }
      finish call (← forEach (removeOne call removing) line.operands {})

/-! ### The working directory -/

def pathOptions : OptionSet where
  short := [('L', .nothing), ('P', .nothing)]
  long := [("logical", .nothing, 'L'), ("physical", .nothing, 'P'), ("help", .nothing, '?'),
    ("version", .nothing, '?')]

/-- A path from the root without single and double dots among its parts. -/
def isPlainPath (name : Text) : Bool :=
  name.head? = some '/' && (name.splitOn '/').all fun p => p != ['.'] && p != ['.', '.']

/-- The path that the environment has for the working directory, if it leads there. -/
def rememberedPath? (call : Call) : Doing (Option Text) := do
  match call.env.get? "PWD" with
  | none => pure none
  | some bytes =>
    let name := Bytes.toLatin bytes
    if !isPlainPath name then pure none
    else
      match ← Doing.ask (.inspect bytes true), ← Doing.ask (.inspect (path ['.']) true) with
      | .ok there, .ok here => pure (if there.node = here.node then some name else none)
      | _, _ => pure none

def showPath (call : Call) : Doing Nat := do
  let line := pathOptions.read false call.arguments
  match line.fault with
  | some fault => call.misuse fault
  | none =>
    if !line.operands.isEmpty then complain (call.message "ignoring non-option arguments".toList)
    let remembered ← if line.last? ['L', 'P'] = some 'L' then rememberedPath? call else pure none
    match remembered with
    | some name => call.finish (name ++ ['\n']) 0
    | none =>
      match ← Doing.ask .directoryPath with
      | .ok bytes => call.finish (Bytes.toLatin bytes ++ ['\n']) 0
      | .error _ => do
        complain (call.message
          "couldn't find directory entry in '..' with matching i-node".toList)
        pure 1

end JobShell.Toolbox.Directories
