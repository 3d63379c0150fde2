import JobShell.Toolbox.Options

/-!
Giving files other names and places.

The last operand is the new name, or a directory that takes the others in.  What is in the way is
replaced unless it is of another kind, is the very file that is moved, or was moved there just
before.
-/

namespace JobShell.Toolbox.Move

open Machine

def options : OptionSet where
  short := [('b', .nothing), ('f', .nothing), ('i', .nothing), ('n', .nothing), ('t', .argument),
    ('u', .nothing), ('v', .nothing), ('T', .nothing), ('S', .argument), ('Z', .nothing)]
  long := [("backup", .maybe, 'b'), ("context", .nothing, 'Z'), ("force", .nothing, 'f'),
    ("interactive", .nothing, 'i'), ("no-clobber", .nothing, 'n'),
    ("no-target-directory", .nothing, 'T'), ("strip-trailing-slashes", .nothing, '/'),
    ("suffix", .argument, 'S'), ("target-directory", .argument, 't'), ("update", .nothing, 'u'),
    ("verbose", .nothing, 'v'), ("help", .nothing, '?'), ("version", .nothing, '?')]

/-- How a file that is in the way is kept. -/
inductive Backup
  | none
  | suffixed
  | numbered
  /-- With a number if there are already files kept so. -/
  | existing
  deriving DecidableEq

/-- The words that name a way to keep files. -/
def backup? (word : Text) : Option Backup :=
  match String.ofList word with
  | "none" | "off" => some .none
  | "simple" | "never" => some .suffixed
  | "existing" | "nil" => some .existing
  | "numbered" | "t" => some .numbered
  | _ => Option.none

/-- What is done when a file is in the way. -/
inductive Consent
  | given | asked | refused
  deriving DecidableEq

structure Manner where
  consent : Consent := .given
  /-- Only files that are newer than what is in the way are moved. -/
  updates : Bool := false
  verbose : Bool := false
  backup : Backup := .none
  suffix : Text := ['~']

/-- What has been done so far. -/
structure Progress where
  hasFailed : Bool := false
  /-- Where files have been moved to. -/
  made : List Files.NodeId := []

def Progress.failed (progress : Progress) : Progress := { progress with hasFailed := true }

/-- Complains; the move has failed. -/
def refuse (call : Call) (text : Text) (progress : Progress) : Doing Progress := do
  complain (call.message text)
  pure progress.failed

/-- The last part of a path, with the slashes behind it. -/
def lastPart (name : Text) : Text :=
  let bare := (name.reverse.dropWhile (· == '/')).reverse
  let base := (bare.reverse.takeWhile (· != '/')).reverse
  base ++ name.drop bare.length

def withoutSlashes (name : Text) : Text :=
  let bare := (name.reverse.dropWhile (· == '/')).reverse
  if bare.isEmpty then name.take 1 else bare

/-- The name of a file within a directory. -/
def inside (directory name : Text) : Text :=
  let base := withoutSlashes (lastPart name)
  if directory.getLast? = some '/' then directory ++ base else directory ++ '/' :: base

/-- Whether two files are the same, of which one may be a link. -/
def isSameFile (source : Text) (from_ to_ : Facts) : Doing Bool := do
  if from_.kind = .link && to_.kind = .link then pure (from_.node = to_.node)
  else if to_.kind = .link then pure false
  else if from_.kind = .link then
    match ← Doing.ask (.inspect (path source) true) with
    | .ok there => pure (there.node = to_.node)
    | .error _ => pure false
  else pure (from_.node = to_.node)

/-- Asks whether a file may be replaced. -/
def mayReplace (call : Call) (name : Text) : Doing Bool := do
  complain (call.name ++ ": overwrite ".toList ++ Text.named name ++ "? ".toList)
  match ← Doing.ask (.read 0 1) with
  | .ok [b] => pure (b = 121 || b = 89)
  | _ => pure false

/-- The number of a numbered file kept for a name. -/
def keptNumber? (name file : Text) : Option Nat :=
  let front := name ++ ".~".toList
  if front.isPrefixOf file && file.getLast? = some '~' then
    Text.number? ((file.drop front.length).dropLast)
  else none

/-- The name under which a file that is in the way is kept. -/
def keptName (manner : Manner) (target : Text) : Doing Text := do
  let base := withoutSlashes (lastPart target)
  let before := target.take (target.length - (lastPart target).length)
  let place := if before.isEmpty then ['.'] else before
  let files := match ← Doing.ask (.list (path place)) with
    | .ok names => names.map Bytes.toLatin
    | .error _ => []
  let numbers := files.filterMap (keptNumber? base)
  let next := numbers.foldl max 0 + 1
  let isNumbered := manner.backup = .numbered || (manner.backup = .existing && !numbers.isEmpty)
  let behind := if isNumbered then ".~".toList ++ Text.decimal next ++ ['~'] else manner.suffix
  pure (before ++ base ++ behind)

/-- Tells of a move that was made. -/
def tell (manner : Manner) (source target : Text) (kept : Option Text) : Doing Unit := do
  if manner.verbose then
    let behind := match kept with
      | some name => " (backup: ".toList ++ Text.named name ++ [')']
      | none => []
    let _ ← write 1 ("renamed ".toList ++ Text.named source ++ " -> ".toList ++
      Text.named target ++ behind ++ ['\n'])

/-- What stands in the way of a move onto a file that is there. -/
def obstacle? (manner : Manner) (progress : Progress) (source target : Text) (from_ to_ : Facts) :
    Option Text :=
  let isKept := manner.backup != .none
  if from_.kind = .directory && to_.kind != .directory && !isKept then
    some ("cannot overwrite non-directory ".toList ++ Text.named target ++
      " with directory ".toList ++ Text.named source)
  else if to_.kind != .directory && manner.backup != .numbered && progress.made.contains to_.node
  then
    some ("will not overwrite just-created ".toList ++ Text.named target ++ " with ".toList ++
      Text.named source)
  else if from_.kind != .directory && to_.kind = .directory && !isKept then
    some ("cannot overwrite directory ".toList ++ Text.named target ++
      " with non-directory".toList)
  else none

/-- What came of a move. -/
def conclude (call : Call) (manner : Manner) (source target : Text) (from_ : Option Facts)
    (kept : Option Text) (outcome : Except Errno Unit) (progress : Progress) : Doing Progress := do
  match outcome with
  | .ok () => do
    tell manner source target kept
    pure { progress with made := (from_.map (·.node)).toList ++ progress.made }
  | .error e =>
    if e = Errno.invalid then
      refuse call ("cannot move ".toList ++ Text.named source ++
        " to a subdirectory of itself, ".toList ++ Text.named target) progress
    else
      refuse call (Call.because ("cannot move ".toList ++ Text.named source ++ " to ".toList ++
        Text.named target) e) progress

/-- Moves a file onto one that is there. -/
def replace (call : Call) (manner : Manner) (source target : Text) (from_ to_ : Facts)
    (progress : Progress) : Doing Progress := do
  if manner.consent = .refused then pure progress
  else if ← isSameFile source from_ to_ then
    refuse call (Text.named source ++ " and ".toList ++ Text.named target ++
      " are the same file".toList) progress
  else if manner.updates && from_.kind != .directory && from_.modified ≤ to_.modified then
    pure progress
  else
    let agreed ← if manner.consent = .asked then mayReplace call target else pure true
    if !agreed then pure progress
    else
      match obstacle? manner progress source target from_ to_ with
      | some text => refuse call text progress
      | none =>
        let isSpecial := [['.'], ['.', '.']].contains (withoutSlashes (lastPart source))
        let kept ← if manner.backup = .none || isSpecial then pure none else do
          let name ← keptName manner target
          let _ ← Doing.ask (.rename (path target) (path name) true)
          pure (some name)
        let outcome ← Doing.ask (.rename (path source) (path target) true)
        conclude call manner source target (some from_) kept outcome progress

/-- Moves a file to a name; the name was free if `first` says so. -/
def moveTo (call : Call) (manner : Manner) (source target : Text)
    (first : Option (Except Errno Unit)) (progress : Progress) : Doing Progress := do
  let before ← Doing.ask (.inspect (path source) false)
  let outcome ← match first with
    | some outcome => pure outcome
    | none => Doing.ask (.rename (path source) (path target) false)
  match outcome with
  | .ok () => conclude call manner source target before.toOption none (.ok ()) progress
  | .error e =>
    match before with
    | .error missing =>
      if e = Errno.fileExists && manner.consent = .refused then pure progress
      else
        refuse call (Call.because ("cannot stat ".toList ++ Text.named source) missing) progress
    | .ok from_ =>
      match ← Doing.ask (.inspect (path target) false) with
      | .ok to_ => replace call manner source target from_ to_ progress
      | .error missing =>
        if missing = Errno.noEntry then
          conclude call manner source target (some from_) none (.error e) progress
        else
          refuse call (Call.because ("cannot stat ".toList ++ Text.named target) missing) progress

def moveAll (call : Call) (manner : Manner) (directory : Text) : List Text → Progress →
    Doing Progress
  | [], progress => pure progress
  | source :: rest, progress => do
    let after ← moveTo call manner source (inside directory source) none progress
    moveAll call manner directory rest after

/-- Whether a path leads to a directory, or why not. -/
def directoryFault? (name : Text) : Doing (Option Errno) := do
  match ← Doing.ask (.inspect (path name) true) with
  | .ok facts => pure (if facts.kind = .directory then none else some Errno.notDirectory)
  | .error e => pure (some e)

def status (progress : Progress) : Nat := if progress.hasFailed then 1 else 0

def intoDirectory (call : Call) (manner : Manner) (directory : Text) (sources : List Text) :
    Doing Nat := do
  pure (status (← moveAll call manner directory sources {}))

def stopWith (call : Call) (text : Text) : Doing Nat := do
  complain (call.message text)
  pure 1

/-- Moves operands, of which the last is the new name or a directory. -/
def byLast (call : Call) (manner : Manner) (operands : List Text) : Doing Nat := do
  let last := operands.getLast?.getD []
  let sources := operands.dropLast
  match sources with
  | [source] => do
    let before ← Doing.ask (.inspect (path source) false)
    match ← Doing.ask (.rename (path source) (path last) false) with
    | .ok () =>
      let progress ← conclude call manner source last before.toOption none (.ok ()) {}
      pure (status progress)
    | .error e =>
      match ← directoryFault? last with
      | none => intoDirectory call manner last sources
      | some _ => pure (status (← moveTo call manner source last (some (.error e)) {}))
  | sources =>
    match ← directoryFault? last with
    | none => intoDirectory call manner last sources
    | some e => stopWith call (Call.because ("target ".toList ++ Text.named last) e)

/-- The words that may name a way to keep files. -/
def backupWords : String :=
  "Valid arguments are:\n  - 'none', 'off'\n  - 'simple', 'never'\n  - 'existing', 'nil'\n" ++
    "  - 'numbered', 't'\n"

/-- The manner that the options ask for; `none` if a way to keep files has no such name. -/
def manner? (call : Call) (line : CommandLine) : Option Manner :=
  let consent := match line.last? ['f', 'i', 'n'] with
    | some 'i' => Consent.asked
    | some 'n' => .refused
    | _ => .given
  let inEnvironment := (call.env.get? "VERSION_CONTROL").map Bytes.toLatin
  let word := match line.options.filter fun o => o.letter == 'b' && o.hasArgument with
    | [] => if line.has 'b' then inEnvironment else some []
    | given => (given.getLast?).map (·.argument)
  let suffixed := (line.argument? 'S').filter (!·.isEmpty)
  let backup :=
    if line.has 'b' || suffixed.isSome then
      match word with
      | some [] | none => some Backup.existing
      | some word => backup? word
    else some .none
  backup.map fun backup =>
    { consent, updates := line.has 'u', verbose := line.has 'v', backup
      suffix := suffixed.getD ['~'] }

def run (call : Call) : Doing Nat := do
  let line := options.read false call.arguments
  let directories := (line.options.filter (·.letter == 't')).map (·.argument)
  let operands :=
    if line.has '/' then line.operands.map withoutSlashes else line.operands
  if 1 < directories.length then stopWith call "multiple target directories specified".toList
  else match line.fault with
  | some fault => call.misuse fault
  | none =>
    match manner? call line with
    | none => do
      let word := (line.argument? 'b').getD []
      complain (call.message ("invalid argument ".toList ++ Text.told word ++
        " for 'backup type'".toList) ++ backupWords.toList ++ call.hint)
      pure 1
    | some manner =>
      match operands, directories with
      | [], _ => call.misuse "missing file operand".toList
      | [only], [] =>
        call.misuse ("missing destination file operand after ".toList ++ Text.named only)
      | operands, [] =>
        if line.has 'T' then
          match operands with
          | [source, target] => pure (status (← moveTo call manner source target none {}))
          | _ => call.misuse ("extra operand ".toList ++ Text.named (operands[2]?.getD []))
        else if manner.backup != .none && manner.consent = .refused then
          call.misuse "options --backup and --no-clobber are mutually exclusive".toList
        else byLast call manner operands
      | operands, directory :: _ =>
        if line.has 'T' then
          stopWith call
            "cannot combine --target-directory (-t) and --no-target-directory (-T)".toList
        else
          match ← directoryFault? directory with
          | some e =>
            stopWith call (Call.because ("target directory ".toList ++ Text.named directory) e)
          | none => intoDirectory call manner directory operands

end JobShell.Toolbox.Move
