import JobShell.Script.Child
import JobShell.Script.Redirect

/-!
Simple commands: words, of which the first names what is carried out.

The words are expanded first, then the redirections and the assignments.  Assignments before a
special command of the shell's own stay; before any other command they last as long as it does, and
without a command they set variables of the shell.
-/

namespace JobShell.Script

open Machine Toolbox

namespace Simple

/-! ### The words -/

/-- The words of a command as far as they have been expanded. -/
structure Words where
  fields : List Text := []
  /-- What has not been expanded yet. -/
  rest : List Word := []
  /-- Where among the fields the command starts. -/
  start : Nat := 0
  /-- The command of the shell's own that carries out the rest. -/
  own : Option Builtin := none
  /-- The first command that was found is a special one. -/
  isSpecial : Bool := false
  takesFunctions : Bool := true
  /-- Where programs are looked for instead of the usual places. -/
  path : Option Text := none

namespace Words

def command (w : Words) : List Text := w.fields.drop w.start

/-- The command stays what it is for the shell, with what has been redirected. -/
def executes (w : Words) : Bool := w.own == some .execute

end Words

/-- Expands words up to one that gives a field. -/
def expandNext (substitute : Expansion.Substitute) : List Word → Acts (List Text × List Word)
  | [] => pure ([], [])
  | word :: rest => do
    let fields ← Expansion.fields substitute word
    if fields.isEmpty then expandNext substitute rest else pure (fields, rest)

/-- Has the fields up to a place expanded. -/
def reach (substitute : Expansion.Substitute) (place : Nat) (w : Words) : Acts Words := do
  if place < w.fields.length then pure w
  else
    let (fields, rest) ← expandNext substitute w.rest
    pure { w with fields := w.fields ++ fields, rest }

/-- Passes over the options of `command`; gives where the command starts that it carries out, if it
does. -/
def passOptions (substitute : Expansion.Substitute) : Nat → Nat → Words →
    Acts (Option Nat × Words)
  | 0, _, w => pure (none, w)
  | fuel + 1, place, w => do
    let w ← reach substitute place w
    match w.fields[place]? with
    | none => pure (none, w)
    | some ['-', '-'] => do
      let w ← reach substitute (place + 1) w
      pure (if place + 1 < w.fields.length then some (place + 1) else none, w)
    | some ('-' :: c :: letters) =>
      if (c :: letters).all (· == 'p') then
        passOptions substitute fuel (place + 1) { w with path := some State.usualPath }
      else pure (none, w)
    | some _ => pure (some place, w)

/-- Finds out whether the shell itself carries out the command. -/
def recognise (substitute : Expansion.Substitute) : Nat → Bool → Words → Acts Words
  | 0, _, w => pure w
  | fuel + 1, isFirst, w => do
    let name := w.command.head?.getD []
    let isFunction := w.takesFunctions && ((← get).functions.lookup name).isSome
    match if isFunction then none else Builtin.ofName? name with
    | none => pure { w with own := none }
    | some builtin => do
      let w := { w with
        own := some builtin
        isSpecial := if isFirst then builtin.isSpecial else w.isSpecial }
      if builtin != .command then pure w
      else match ← passOptions substitute (w.fields.length + w.rest.length + 1) (w.start + 1) w with
        | (some start, w) => recognise substitute fuel false { w with start, takesFunctions := false }
        | (none, w) => pure w

/-- Expands the words that are left. -/
def expandRest (substitute : Expansion.Substitute) (takesAssignments : Bool) :
    List Word → Acts (List Text)
  | [] => pure []
  | word :: rest => do
    let fields ← if takesAssignments && word.assignment?.isSome then do
        pure [← Expansion.text substitute { valueTilde := true } word]
      else Expansion.fields substitute word
    pure (fields ++ (← expandRest substitute takesAssignments rest))

/-- Expands all words of a command. -/
def expand (substitute : Expansion.Substitute) (words : List Word) : Acts Words := do
  let (fields, rest) ← expandNext substitute words
  if fields.isEmpty then pure {}
  else
    let w ← recognise substitute (words.length + 1) true { fields, rest }
    let more ← expandRest substitute (w.own.any Builtin.takesAssignments) w.rest
    pure { w with fields := w.fields ++ more, rest := [] }

/-! ### Assignments and the trace -/

/-- Carries out assignments in turn; gives their texts. -/
def assign (substitute : Expansion.Substitute) (isLocal exports : Bool) :
    List Word → Acts (List Text)
  | [] => pure []
  | word :: rest => do
    let text ← Expansion.text substitute { valueTilde := true } word
    let (name, value) := Variables.parts text
    if isLocal then Acts.makeLocal name
    Acts.setVariable name (value.getD []) (isLocal || exports)
    pure (text :: (← assign substitute isLocal exports rest))

/-- No line of a text can be this one. -/
def noLine : Text := ['\x00']

/-- A text as a word in quotation marks that is to be expanded. -/
def promptWord (text : Text) : Word :=
  let inner := (Grammar.toDepth Grammar.depth).inner
  let level : Level := { manner := .double, isDouble := true }
  let reader : Reads Word := do
    let (scan, _) ← Scan.loop inner (some (noLine, false)) Reads.bound (← Reads.nextJoined) { level }
    pure scan.word
  match reader.run (Lines.start text) with
  | .ok (word, _) => word
  | .error _ => Word.ofText text

/-- Writes a line of the trace, if the shell is told to. -/
def trace (substitute : Expansion.Substitute) (descriptor : Nat) (texts : List Text) :
    Acts Unit := do
  let s ← get
  if s.has .trace && !s.isTracing then
    set { s with isTracing := true }
    let word := promptWord ((s.valueOf? "PS4".toList).getD [])
    let front ← Acts.caught (Expansion.text substitute { isQuoted := true } word)
    modify fun s => { s with isTracing := false }
    match front with
    | .ok front => do
      let _ ← Acts.write descriptor (front ++ List.intercalate [' '] texts ++ ['\n'])
    | .error why => throw why

/-! ### The shell's own commands -/

/-- The file that a name without a slash leads to in the search path. -/
def findFile (name : Text) : List Text → Acts Text
  | [] => Acts.fail (name ++ ": not found".toList)
  | directory :: rest => do
    let path := Lookup.pathIn directory name
    let isThere ← if Lookup.isPlain directory then do
        match ← Acts.ask (.inspect (Toolbox.path path) true) with
        | .ok facts => pure (facts.kind == .file)
        | .error _ => pure false
      else pure false
    if isThere then pure path else findFile name rest

/-- The text of a file. -/
def contentOf (path : Text) : Acts Text := do
  let opened ← Acts.ask (.openFile (Toolbox.path path) { reads := true })
  let descriptor ← Redirect.opened false path opened
  let bytes ← Child.readAll descriptor Child.manyPortions []
  Acts.ask (.close descriptor)
  pure (Bytes.toLatin bytes)

/-- Carries out the commands in a file. -/
def source (run : Run) (arguments : List Text) : Acts Reply := do
  match ← Acts.operands arguments with
  | [] => pure {}
  | name :: _ => do
    let path ← if name.contains '/' then pure name
      else findFile name (Lookup.directories (← get).searchPath)
    let text ← contentOf path
    modify fun s => { s with command := some path }
    match ← Acts.caught (Lines.runText run {} true text) with
    | .ok status => pure (.ofStatus status)
    | .error (.function _) => do pure (.ofStatus (← get).status)
    | .error why => throw why

/-- Leaves loops, of which the last may go on. -/
def leaveLoops (again : Bool) (arguments : List Text) : Acts Reply := do
  let count ← match arguments with
    | [] => pure 1
    | word :: _ => do
      let n ← Acts.number word
      if n = 0 then Acts.illegalNumber word else pure n
  let count := min count (← get).loops
  if 0 < count then do
    Acts.setStatus 0
    throw (.loops count again)
  else pure {}

/-- Leaves a function or a file. -/
def return_ (arguments : List Text) : Acts Reply := do
  match arguments with
  | [] => throw (.function false)
  | word :: _ => do
    Acts.setStatus (← Acts.number word)
    throw (.function true)

/-- Leaves the shell; the status is the given one, or the last one from before any trap. -/
def exit (arguments : List Text) : Acts Reply := do
  match arguments with
  | [] => modify fun s => { s with status := s.savedStatus.getD s.status }
  | word :: _ => do Acts.setStatus (← Acts.number word)
  throw .leave

/-- Says what names stand for, if `command` is asked for that. -/
def describe (arguments : List Text) : Acts Reply := do
  let flags ← Acts.flags [('p', false), ('v', false), ('V', false)] arguments
  match flags.operands with
  | name :: _ =>
    if flags.has 'v' || flags.has 'V' then
      Lookup.describe (flags.has 'V') (if flags.has 'p' then some State.usualPath else none) name
    else pure {}
  | [] => pure {}

/-- What a command of the shell's own does. -/
def answer (run : Run) (stance : Stance) (arguments : List Text) : Builtin → Acts Reply
  | .dot => source run arguments
  | .colon | .true_ => pure {}
  | .false_ => pure (.ofStatus 1)
  | .alias_ => Alias.alias_ arguments
  | .unalias => Alias.unalias arguments
  | .break_ => leaveLoops false arguments
  | .continue_ => leaveLoops true arguments
  | .directory => Directory.change arguments
  | .showDirectory => Directory.showPath arguments
  | .command => describe arguments
  | .kind => Lookup.describeAll true none {} arguments
  | .hash => Lookup.hash arguments
  | .echo => pure (Printing.echo arguments)
  | .printf => Printing.format arguments
  | .evaluate => do
    let text := List.intercalate [' '] arguments
    pure (.ofStatus (← Lines.runText run { isTested := stance.isTested } false text))
  | .execute => do
    if !arguments.isEmpty then Lookup.become arguments none 0
    pure {}
  | .exit => exit arguments
  | .return_ => return_ arguments
  | .export_ => Variables.declare .exported arguments
  | .fixed => Variables.declare .fixed arguments
  | .local_ => Variables.local_ arguments
  | .set_ => Variables.set_ arguments
  | .shift => Variables.shift arguments
  | .unset => Variables.unset arguments
  | .resume => Waiting.resume arguments
  | .jobs => Waiting.jobs arguments
  | .wait => Waiting.wait arguments
  | .options => Input.readOption arguments
  | .read => Input.read arguments
  | .kill => Signalling.kill arguments
  | .trap => Signalling.trap arguments
  | .test isBracketed => Condition.run isBracketed arguments
  | .times => pure Limits.times
  | .limits => Limits.ulimit arguments
  | .mask => Limits.umask arguments

/-- Writes what a command of the shell's own has to say; that it could not be written makes it
fail. -/
def settle (name : Text) (reply : Reply) : Acts Unit := do
  match ← Acts.write 1 reply.output with
  | .ok () => Acts.setStatus reply.status
  | .error _ => do
    if !reply.breaks then Acts.warn (name ++ ": I/O error".toList)
    Acts.setStatus (reply.status ||| 1)
  if reply.breaks then
    Acts.setStatus reply.status
    throw .error

/-- Carries out a command of the shell's own; messages carry its name. -/
def carryOut (run : Run) (stance : Stance) (builtin : Builtin) (words : List Text) :
    Acts Unit := do
  let outer := (← get).command
  let name := words.head?.getD []
  modify fun s => { s with command := some name }
  Acts.finally_ (do settle name (← answer run stance (words.drop 1) builtin))
    (modify fun s => { s with command := outer })

/-- Carries out a function, which has parameters of its own. -/
def call (run : Run) (stance : Stance) (body : Command) (arguments : List Text) : Acts Unit := do
  let outer ← get
  set { outer with parameters := arguments, optionIndex := 1, optionOffset := none, loops := 0 }
  let result ← Acts.caught (run { isTested := stance.isTested } body)
  modify fun s =>
    { s with
      parameters := outer.parameters, optionIndex := outer.optionIndex
      optionOffset := outer.optionOffset, loops := outer.loops }
  match result with
  | .ok () | .error (.function _) => pure ()
  | .error why => throw why

/-! ### The whole -/

/-- Carries out what the words of a command say; without words the status is that of the last
substitution. -/
def perform (run : Run) (stance : Stance) (w : Words) : Acts Unit := do
  match w.command, w.own with
  | [], _ => do Acts.setStatus (← get).substitutionStatus
  | words, some builtin => do
    match ← Acts.caught (carryOut run stance builtin words) with
    | .ok () => pure ()
    | .error .error => if w.isSpecial then throw .error
    | .error why => throw why
    if !(← get).jobs.isEmpty then Acts.reap none Acts.manyChildren
  | name :: arguments, none => do
    match ← Lookup.find name w.takesFunctions false w.path with
    | .missing e => do
      Lookup.warnMissing name e
      Acts.setStatus Launch.notFound
    | .function body => call run stance body arguments
    | .own builtin => carryOut run stance builtin (name :: arguments)
    | .program _ place => do
      if stance.isLast && !(← Acts.hasTraps) then Lookup.become (name :: arguments) w.path place
      else Child.program (name :: arguments) w.path place

/-- Carries out redirections and assignments, and then the command. -/
def arranged (run : Run) (stance : Stance) (w : Words) (assignments : List Word)
    (redirections : List Redirection) : Acts Unit := do
  let substitute := Child.output run
  let sources ← Redirect.prepareAll substitute redirections
  let (aside, failure) ← Redirect.applyAll true sources []
  match failure with
  | some why => do
    Redirect.takeBack false aside
    match why with
    | .error => if w.isSpecial then throw .error
    | why => throw why
  | none =>
    let work : Acts Unit := do
      let isLocal := !w.fields.isEmpty && !w.isSpecial
      let exports := w.executes && 1 < w.command.length
      let texts ← assign substitute isLocal exports assignments
      trace substitute ((aside.lookup 2).join.getD 2) (texts ++ w.fields)
      perform run stance w
    Acts.finally_ work (Redirect.takeBack w.executes aside)

/-- Carries out a simple command. -/
def run (run : Run) (stance : Stance) (line : Nat) (assignments words : List Word)
    (redirections : List Redirection) : Acts Unit := do
  modify fun s => { s with line, substitutionStatus := 0 }
  let w ← expand (Child.output run) words
  let work := arranged run stance w assignments redirections
  if !w.fields.isEmpty && !w.isSpecial then Acts.withLocals work else work

end Simple

end JobShell.Script
