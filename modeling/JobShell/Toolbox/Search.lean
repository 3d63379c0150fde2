import JobShell.Toolbox.Pattern
import JobShell.Toolbox.Search.Report

/-!
Searching files for lines.

The files are searched in turn; their lines are shown, counted, or only asked for.  The status says
whether a line has been selected, unless something went wrong.
-/

namespace JobShell.Toolbox.Search

open Machine

/-! ### Patterns -/

/-- The patterns of a text, one in each line. -/
def patternTexts (text : Text) : List Text :=
  if text.isEmpty then [] else (text.dropLast.splitOn '\n').eraseDups

/-- The faults of patterns, all of which are complained of. -/
def complainAll (call : Call) : List Text → Doing Unit
  | [] => pure ()
  | text :: rest => do
    complain (call.message text)
    complainAll call rest

/-- The readings of texts up to one with a list that was meant to be a class. -/
def upToConfusing (readings : List Spelling.Reading) : List Spelling.Reading :=
  let clear := readings.takeWhile (!·.isConfusing)
  readings.take (clear.length + 1)

/-- The patterns as expressions; those that are none are complained of. -/
def compile (call : Call) (wish : Wish) (texts : List Text) :
    Doing (Option (List Expression)) := do
  match wish.matcher.getD .basic with
  | .fixed => pure (some (texts.map (Expression.ofText wish.ignoresCase)))
  | matcher => do
    let spelling := if matcher = .basic then Spelling.basic else .extended
    let results := texts.map (spelling.read wish.ignoresCase)
    let faults := results.filterMap fun
      | .error fault => some fault.wording.toList
      | .ok _ => none
    let readings := results.filterMap Except.toOption
    if !faults.isEmpty then do
      complainAll call faults
      pure none
    else do
      complainAll call
        ((upToConfusing readings).flatMap fun r => r.warnings.map ("warning: ".toList ++ ·))
      if readings.any (·.isConfusing) then do
        complain (call.message "character class syntax is [[:space:]], not [:space:]".toList)
        pure none
      else pure (some (readings.map (·.frame.expression)))

/-! ### Files -/

/-- What has come of the files so far. -/
structure Tally where
  isSelected : Bool := false
  hasFailed : Bool := false
  hasShown : Bool := false
  /-- Output that has not been written yet, last piece first. -/
  output : List Text := []

structure Query where
  call : Call
  wish : Wish
  patterns : Patterns
  /-- Names are shown before lines. -/
  showsNames : Bool

/-- Complains; what has been shown before is written first. -/
def Query.complain (query : Query) (text : Text) (tally : Tally) : Doing Tally := do
  let _ ← write 1 tally.output.reverse.flatten
  Toolbox.complain (query.call.message text)
  pure { tally with output := [] }

/-- A file cannot be searched. -/
def Query.fail (query : Query) (name : Text) (e : Errno) (tally : Tally) : Doing Tally :=
  let tally := { tally with hasFailed := true }
  if query.wish.isSilent then pure tally else query.complain (Call.because name e) tally

/-- What is shown of the content of a file. -/
def Query.content (query : Query) (name : Text) (content : Text) (tally : Tally) :
    Doing Tally :=
  let { wish, patterns, .. } := query
  let lines := fileLines wish content
  let shownName := if query.showsNames then some name else none
  let nameEnd := fun (mark : Char) => name ++ [if wish.nullAfterName then '\x00' else mark]
  if isBinary wish content && wish.forBinary = .passedOver then pure tally
  else if wish.stopsAtFirst || wish.counts || isBinary wish content then
    let most := if wish.stopsAtFirst then some (min 1 (wish.most.getD 1)) else wish.most
    let count := countSelected patterns wish most lines
    let isSelected := 0 < count
    let tally := { tally with isSelected := tally.isSelected || isSelected }
    let add := fun (text : Text) => (pure { tally with output := text :: tally.output } : Doing _)
    if wish.isQuiet then pure tally
    else
      match wish.listing with
      | .selected => add (if isSelected then nameEnd '\n' else [])
      | .unselected => add (if isSelected then [] else nameEnd '\n')
      | .none =>
        if wish.counts then
          add ((shownName.elim [] fun _ => nameEnd ':') ++ Text.decimal count ++ ['\n'])
        else if isSelected then query.complain (name ++ ": binary file matches".toList) tally
        else pure tally
  else
    let report := Report.go patterns wish shownName wish.most lines { hasShown := tally.hasShown }
    pure
      { tally with
        isSelected := tally.isSelected || 0 < report.selected
        hasShown := report.hasShown
        output := report.pieces ++ tally.output }

def Query.one (query : Query) (file : Text) (tally : Tally) : Doing Tally := do
  let name := if file == ['-'] then query.wish.label else file
  match ← contentOf file with
  | .ok content => query.content name content tally
  | .error e => query.fail name e tally

/-- The search is over, as nothing more can change its result. -/
def Query.isOver (query : Query) (tally : Tally) : Bool :=
  query.wish.isQuiet && tally.isSelected

/-- A file that options do not leave out. -/
def isWanted (wish : Wish) (file : Text) : Bool :=
  let base := (file.reverse.takeWhile (· != '/')).reverse
  let fits := fun (patterns : List Text) =>
    patterns.any fun p => Pattern.isMatch p base || Pattern.isMatch p file
  (wish.included.isEmpty || fits wish.included) && !fits wish.excluded

/-- Searches a file, or what a directory holds; the fuel bounds the depth. -/
def Query.below (query : Query) : Nat → Text → Text → Tally → Doing Tally
  | 0, _, _, tally => pure tally
  | depth + 1, file, shown, tally => do
    match ← Doing.ask (.inspect (path file) query.wish.followsLinks) with
    | .error e => query.fail shown e tally
    | .ok facts =>
      match facts.kind with
      | .directory =>
        match ← Doing.ask (.list (path file)) with
        | .error e => query.fail shown e tally
        | .ok names =>
          let front := fun (text : Text) =>
            if text.isEmpty || text.getLast? == some '/' then text else text ++ ['/']
          names.foldlM
            (fun tally bytes => do
              let name := Bytes.toLatin bytes
              if query.isOver tally then pure tally
              else below query depth (front file ++ name) (front shown ++ name) tally)
            tally
      | .file =>
        if !isWanted query.wish shown then pure tally
        else
          match ← contentOf file with
          | .ok content => query.content shown content tally
          | .error e => query.fail shown e tally
      | _ => pure tally

/-- How deep directories are searched. -/
def maxDepth : Nat := 200

/-- Searches a file named on the command line. -/
def Query.operand (query : Query) (isNamed : Bool) (file : Text) (tally : Tally) :
    Doing Tally := do
  let bare := if file == ['-'] then [] else path file
  match query.wish.forDirectory, ← Doing.ask (.inspect bare true) with
  | .recurse, .ok { kind := .directory, .. } =>
    let named := { query with showsNames := query.wish.showsNames.getD true }
    let entries ← Doing.ask (.list bare)
    match entries with
    | .error e => query.fail file e tally
    | .ok names =>
      let front := if file.getLast? == some '/' then file else file ++ ['/']
      names.foldlM
        (fun tally bytes => do
          let name := Bytes.toLatin bytes
          if query.isOver tally then pure tally
          else named.below maxDepth (front ++ name) (if isNamed then front ++ name else name) tally)
        tally
  | .skip, .ok { kind := .directory, .. } => pure tally
  | _, _ => if isWanted query.wish file then query.one file tally else pure tally

def Query.all (query : Query) (isNamed : Bool) : List Text → Tally → Doing Tally
  | [], tally => pure tally
  | file :: rest, tally => do
    let tally ← query.operand isNamed file tally
    if query.isOver tally then pure tally else query.all isNamed rest tally

/-- Searches the files and ends with a status. -/
def Query.run (query : Query) (files : List Text) : Doing Nat := do
  let isRecursive := query.wish.forDirectory = .recurse
  let (isNamed, files) :=
    if files.isEmpty then (false, [if isRecursive then ['.'] else ['-']]) else (true, files)
  let tally ← query.all isNamed files {}
  let status := if query.isOver tally then 0 else if tally.hasFailed then 2
    else if tally.isSelected then 0 else 1
  query.call.finish tally.output.reverse.flatten status 2

/-- Searches for the patterns of a text. -/
def search (call : Call) (wish : Wish) (patterns : Text) (files : List Text) : Doing Nat := do
  let isEmpty := patterns.length ≤ 1
  let wish :=
    if patterns.isEmpty then { wish with wholeLine := false, wholeWord := false } else wish
  let inverted := if patterns.isEmpty then !wish.inverted else wish.inverted
  let isVain := isEmpty && inverted && !wish.wholeLine && !wish.wholeWord
  if (wish.most = some 0 || isVain) && wish.listing != .unselected then pure 1
  else
    let texts := if patterns.isEmpty then [[]] else patternTexts patterns
    match ← compile call wish texts with
    | none => pure 2
    | some expressions =>
      let showsNames := wish.showsNames.getD (1 < files.length)
      Query.run ⟨call, wish, ⟨expressions, inverted⟩, showsNames⟩ files

def run (call : Call) : Doing Nat := do
  let line := options.read false call.arguments
  match ← takeAll call {} line.options with
  | .stop status => pure status
  | .goOn wish =>
    match line.fault, wish.patterns, line.operands with
    | some fault, _, _ => do
      complain (call.message fault ++ usage call)
      pure 2
    | none, some patterns, files => search call wish patterns files
    | none, none, pattern :: files => search call wish (pattern ++ ['\n']) files
    | none, none, [] => do
      complain (usage call)
      pure 2

end JobShell.Toolbox.Search
