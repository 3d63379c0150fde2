import JobShell.Script.Simple

/-!
Carrying out commands.

Loops, functions and the shell itself are left by breaking off the work inside them, so each
construct says what it does with work that was broken off.  `Run.toDepth` lets commands stand in each
other to a depth; beyond it the shell faults.
-/

namespace JobShell.Script

open Machine Toolbox

namespace Run

variable (run : Run)

def substitute : Expansion.Substitute := Child.output run

/-- Carries out a command that may be missing. -/
def optional (stance : Stance) : Option Command → Acts Unit
  | some command => run stance command
  | none => Acts.setStatus 0

/-- Carries out the commands that are set for signals which have come.  The status from before stays
unless a command returned with another; when something is left, the signals behind wait. -/
def serve : List Nat → Acts Unit
  | [] => pure ()
  | signal :: rest => do
    modify fun s => { s with pending := s.pending.filter (· != signal) }
    let before ← get
    match before.traps.lookup signal with
    | none => serve rest
    | some commands => do
      set { before with savedStatus := some (before.savedStatus.getD before.status) }
      let goBack (keepsStatus : Bool) : Acts Unit := modify fun s =>
        { s with
          savedStatus := before.savedStatus
          status := if keepsStatus then s.status
            else before.savedStatus.getD before.status }
      match ← Acts.caught (Lines.runText run {} false commands) with
      | .ok _ => do
        goBack false
        serve rest
      | .error (.loops n again) => do
        goBack false
        throw (.loops n again)
      | .error (.function hasStatus) => do
        goBack hasStatus
        throw (.function hasStatus)
      | .error why => throw why

/-- Looks for signals. -/
def watch : Acts Unit := do
  let pending ← Acts.poll
  if !pending.isEmpty then serve run (pending.mergeSort fun a b => a ≤ b)

/-- Carries out a command with redirections around it. -/
def redirected (stance : Stance) (line : Nat) (body : Command) (redirections : List Redirection) :
    Acts Unit := do
  modify fun s => { s with line }
  let sources ← Redirect.prepareAll (substitute run) redirections
  let (aside, failure) ← Redirect.applyAll true sources []
  match failure with
  | some .error => Redirect.takeBack false aside
  | some why => do
    Redirect.takeBack false aside
    throw why
  | none =>
    Acts.finally_ (run { isTested := stance.isTested } body) (Redirect.takeBack false aside)

/-- Redirects for good. -/
def redirectForGood (sources : List (Nat × Redirect.Source)) : Acts Unit := do
  let (_, failure) ← Redirect.applyAll false sources []
  match failure with
  | some why => throw why
  | none => pure ()

/-- Carries out commands in a part of the shell, or in the shell itself if that is the same. -/
def subshell (stance : Stance) (line : Nat) (body : Option Command)
    (redirections : List Redirection) : Acts Unit := do
  modify fun s => { s with line }
  let sources ← Redirect.prepareAll (substitute run) redirections
  let work := do
    redirectForGood sources
    optional run { stance with isLast := true } body
  if stance.isLast && !(← Acts.hasTraps) then do
    work
    throw .leave
  else do
    let process ← Child.start run work
    Child.wait [process]

/-- Starts commands that are not waited for. -/
def background (stance : Stance) (line : Nat) (body : Command) (redirections : List Redirection) :
    Acts Unit := do
  modify fun s => { s with line }
  let sources ← Redirect.prepareAll (substitute run) redirections
  let process ← Child.start run (Child.unwatched true do
    redirectForGood sources
    run { stance with isTested := false, isLast := true } body)
  Child.noteBackground [process]
  Acts.setStatus 0

def pipeline (stance : Stance) (commands : List Command) (isBackground : Bool) : Acts Unit := do
  let processes ← Child.pipeline run stance isBackground true none commands
  if isBackground then do
    Child.noteBackground processes
    Acts.setStatus 0
  else Child.wait processes

/-! ### Loops -/

/-- Counts a loop around its work. -/
def asLoop (work : Acts Unit) : Acts Unit := do
  let outer := (← get).loops
  modify fun s => { s with loops := outer + 1 }
  Acts.finally_ work (modify fun s => { s with loops := outer })

/-- Carries out a part of a loop; gives whether the loop goes on. -/
def round (work : Acts Unit) : Acts Bool := do
  match ← Acts.caught work with
  | .ok () => pure true
  | .error (.loops 1 again) => pure again
  | .error (.loops n again) => throw (.loops (n - 1) again)
  | .error why => throw why

/-- How the condition of a loop came out. -/
inductive Verdict
  | holds | fails
  /-- It was broken off, and the loop goes on or not. -/
  | cut (goesOn : Bool)

/-- Carries out the condition of a loop. -/
def judge (untilTrue : Bool) (condition : Option Command) : Acts Verdict := do
  match ← Acts.caught (optional run { isTested := true } condition) with
  | .ok () => do pure (if ((← get).status == 0) != untilTrue then .holds else .fails)
  | .error (.loops 1 again) => pure (.cut again)
  | .error (.loops n again) => throw (.loops (n - 1) again)
  | .error why => throw why

/-- Repeats a body as long as its condition allows; the status is that of the last body. -/
def repeated (stance : Stance) (untilTrue : Bool) (condition body : Option Command) :
    Nat → Nat → Acts Unit
  | 0, status => Acts.setStatus status
  | fuel + 1, status => do
    match ← judge run untilTrue condition with
    | .fails | .cut false => Acts.setStatus status
    | .cut true => repeated stance untilTrue condition body fuel status
    | .holds => do
      let goesOn ← round (optional run { isTested := stance.isTested } body)
      let status := (← get).status
      if goesOn then repeated stance untilTrue condition body fuel status
      else Acts.setStatus status

/-- More rounds than any loop makes. -/
def manyRounds : Nat := 1000000000000

/-- Carries out a body for each of several values of a variable. -/
def forEach (stance : Stance) (name : Text) (body : Option Command) : List Text → Acts Unit
  | [] => pure ()
  | value :: rest => do
    Acts.setVariable name value
    if ← round (optional run { isTested := stance.isTested } body) then
      forEach stance name body rest

/-! ### Selections -/

/-- Whether one of several patterns matches a text. -/
def matchesAny (text : Text) : List Word → Acts Bool
  | [] => pure false
  | pattern :: rest => do
    if Pattern.isMatch (← Expansion.pattern (substitute run) pattern) text then pure true
    else matchesAny text rest

/-- Carries out the first branch with a pattern that matches. -/
def choose (stance : Stance) (text : Text) : List (List Word × Option Command) → Acts Unit
  | [] => Acts.setStatus 0
  | (patterns, body) :: rest => do
    if ← matchesAny run text patterns then optional run stance body
    else choose stance text rest

/-! ### All commands -/

/-- Carries out a command whose parts are carried out by `run`. -/
def step (stance : Stance) : Command → Acts Unit
  | .simple line assignments words redirections =>
    Simple.run run stance line assignments words redirections
  | .pipeline commands isBackground => pipeline run stance commands isBackground
  | .redirected line body redirections => redirected run stance line body redirections
  | .background line body redirections => background run stance line body redirections
  | .subshell line body redirections => subshell run stance line body redirections
  | .both first second => do
    run { isTested := true } first
    if (← get).status = 0 then run stance second
  | .either first second => do
    run { isTested := true } first
    if (← get).status != 0 then run stance second
  | .sequence first second => do
    run { isTested := stance.isTested } first
    run stance second
  | .choice condition yes no => do
    optional run { isTested := true } condition
    if (← get).status = 0 then optional run stance yes
    else match no with
      | some no => run stance no
      | none => Acts.setStatus 0
  | .loop untilTrue condition body =>
    asLoop (repeated run stance untilTrue condition body manyRounds 0)
  | .each line name words body => do
    modify fun s => { s with line }
    let values ← Expansion.allFields (substitute run) words
    if values.isEmpty then Acts.setStatus 0
    asLoop (forEach run stance name body values)
  | .select line word branches => do
    modify fun s => { s with line }
    let text ← Expansion.text (substitute run) { tilde := true } word
    choose run stance text branches
  | .define _ name body => do
    modify fun s =>
      { s with functions := (name, body) :: s.functions.filter (·.1 != name) }
    Acts.setStatus 0
  | .negated body => do
    run { isTested := true } body
    modify fun s => { s with status := if s.status = 0 then 1 else 0 }

/-- Commands that can make the shell leave by their failure. -/
def counts : Command → Bool
  | .simple _ _ _ _ | .subshell _ _ _ | .background _ _ _ | .pipeline _ _ => true
  | _ => false

/-- Carries out a command and looks for signals; leaves after a failure, if the shell is told to. -/
def whole (stance : Stance) (command : Command) : Acts Unit := do
  if !(← get).has .noWork then
    step run stance command
    if counts command then
      watch run
      let s ← get
      if s.has .exitOnFailure && !stance.isTested && s.status != 0 then throw .leave

/-- Carries out commands that stand in each other to a depth. -/
def toDepth : Nat → Run
  | 0 => fun _ _ => Acts.dieBy (Signal.number .segv)
  | depth + 1 => whole (toDepth depth)

/-- How deep commands may stand in each other. -/
def depth : Nat := 20000

end Run

end JobShell.Script
