import JobShell.Proofs.Effects
import JobShell.Proofs.Session

/-!
# What a session is known by

A session is known by what its reader answers and by the commands it dispatches, in order.  The read
loop is written here once more, with a mark left at each read and at each dispatch (`Marked`).  With
the marks taken away it is the read loop (`erase_markedRunWithin`), so the marks of a run
(`Shell.marks`) are those of the run itself (`erase_marked_run`).

One round leaves the mark of its read and those of the commands that the answer orders
(`marks_markedStep`).
-/

namespace JobShell

inductive Mark
  | read (answer : ReadAnswer)
  | dispatched (cmd : Command)
  deriving DecidableEq

/-- An action that leaves marks besides. -/
def Marked (σ α : Type) : Type := σ → Outcome Entry σ (α × List Mark)

namespace Marked

variable {σ α β : Type}

protected def pure (a : α) : Marked σ α := fun host => ⟨(a, []), [], host⟩

protected def bind (x : Marked σ α) (f : α → Marked σ β) : Marked σ β := fun host =>
  let first := x host
  let second := f first.value.1 first.state
  ⟨(second.value.1, first.value.2 ++ second.value.2), first.written ++ second.written,
    second.state⟩

instance : Monad (Marked σ) where
  pure := Marked.pure
  bind := Marked.bind

/-- An action that leaves no mark. -/
def plain (act : Act σ α) : Marked σ α := fun host =>
  ⟨((act host).value, []), (act host).written, (act host).state⟩

def leave (mark : Mark) : Marked σ Unit := fun host => ⟨((), [mark]), [], host⟩

/-- The action without its marks. -/
def erase (x : Marked σ α) : Act σ α := fun host =>
  ⟨(x host).value.1, (x host).written, (x host).state⟩

def marks (x : Marked σ α) (host : σ) : List Mark := (x host).value.2

@[simp] theorem erase_pure (a : α) : (pure a : Marked σ α).erase = pure a := rfl

@[simp] theorem erase_bind (x : Marked σ α) (f : α → Marked σ β) :
    (x >>= f).erase = (do
      let a ← x.erase
      (f a).erase) := rfl

@[simp] theorem erase_plain (act : Act σ α) : (plain act).erase = act := rfl

@[simp] theorem erase_leave (mark : Mark) : (leave mark : Marked σ Unit).erase = pure () := rfl

@[simp] theorem erase_ite (test : Bool) (x y : Marked σ α) :
    (if test then x else y).erase = if test then x.erase else y.erase := by
  cases test <;> rfl

@[simp] theorem marks_pure (a : α) (host : σ) : (pure a : Marked σ α).marks host = [] := rfl

@[simp] theorem marks_bind (x : Marked σ α) (f : α → Marked σ β) (host : σ) :
    (x >>= f).marks host =
      x.marks host ++ (f (x.erase host).value).marks (x.erase host).state := rfl

@[simp] theorem marks_plain (act : Act σ α) (host : σ) : (plain act).marks host = [] := rfl

@[simp] theorem marks_ite (test : Bool) (x y : Marked σ α) (host : σ) :
    (if test then x else y).marks host = if test then x.marks host else y.marks host := by
  cases test <;> rfl

@[simp] theorem marks_leave (mark : Mark) (host : σ) :
    (leave mark : Marked σ Unit).marks host = [mark] := rfl

end Marked

namespace Shell

variable {ρ σ ω : Type} [Host σ]

/-! ## The read loop with marks -/

def markedExecuteLine (line : String) (shell : Shell ρ σ ω) :
    Marked σ (Option Status × Shell ρ σ ω) :=
  match Command.parse line with
  | .error .empty => pure (none, shell)
  | .ok cmd => do
    Marked.leave (.dispatched cmd)
    Marked.plain (execute cmd shell)

def markedLeave (shell : Shell ρ σ ω) : Marked σ (Shell ρ σ ω) :=
  if shell.dispatcher.builtins.isBuiltin exitCommand then do
    let result ← markedExecuteLine exitCommand shell
    pure result.2.requestExit
  else pure shell.requestExit

def markedLeaveAfter (echoed : Except ShellError Unit) (shell : Shell ρ σ ω) :
    Marked σ (Except ShellError Unit × Shell ρ σ ω) :=
  match echoed with
  | .error error => pure (.error error, shell)
  | .ok () => do
    let shell ← markedLeave shell
    pure (.ok (), shell)

variable [Writer ω]

def markedRespond (answer : ReadAnswer) (shell : Shell ρ σ ω) :
    Marked σ (Except ShellError Unit × Shell ρ σ ω) :=
  match answer with
  | .line line =>
    if line.isEmpty then pure (.ok (), shell)
    else do
      let result ← markedExecuteLine line shell
      pure (.ok (), result.2)
  | .closed => do
    let echoed ← Marked.plain (echoExit shell)
    markedLeaveAfter echoed.1 echoed.2
  | .failed error => do
    Marked.plain (Act.warn .readLoop s!"read failed: {error.message}")
    Marked.plain (Act.write (.failure error.message))
    pure (.ok (), shell.requestExit)

variable [LineReader ρ]

def markedStep (shell : Shell ρ σ ω) : Marked σ (Except ShellError Unit × Shell ρ σ ω) := do
  let shell ← Marked.plain (reportFinishedJobs shell)
  let read ← Marked.plain (readLine shell)
  Marked.leave (.read read.1)
  markedRespond read.1 read.2

def markedRunWithin : Nat → Shell ρ σ ω → Marked σ (Option (Except ShellError Int × Shell ρ σ ω))
  | 0, shell => if shell.state.shouldExit then Marked.plain (some <$> finish shell) else pure none
  | rounds + 1, shell =>
    if shell.state.shouldExit then Marked.plain (some <$> finish shell)
    else do
      let taken ← markedStep shell
      match taken.1 with
      | .error error => pure (some (.error error, taken.2))
      | .ok () => markedRunWithin rounds taken.2

/-- The marks of a run. -/
def marks (shell : Shell ρ σ ω) (host : σ) : List Mark :=
  (markedRunWithin (roundsLeft shell) shell).marks host

/-! ## Without its marks it is the read loop -/

omit [LineReader ρ] [Writer ω] in
theorem erase_markedExecuteLine (line : String) (shell : Shell ρ σ ω) :
    (markedExecuteLine line shell).erase = executeLine line shell := by
  unfold markedExecuteLine executeLine
  cases Command.parse line with
  | error e => rfl
  | ok cmd => rfl

omit [LineReader ρ] [Writer ω] in
theorem erase_markedLeave (shell : Shell ρ σ ω) : (markedLeave shell).erase = leave shell := by
  simp only [markedLeave, leave, Marked.erase_ite, Marked.erase_bind, erase_markedExecuteLine,
    Marked.erase_pure]

omit [LineReader ρ] in
theorem erase_markedRespond (answer : ReadAnswer) (shell : Shell ρ σ ω) :
    (markedRespond answer shell).erase = respond answer shell := by
  cases answer with
  | line line =>
    simp only [markedRespond, respond, Marked.erase_ite, Marked.erase_bind,
      erase_markedExecuteLine, Marked.erase_pure]
  | closed =>
    have hleave : ∀ (echoed : Except ShellError Unit) (shell : Shell ρ σ ω),
        (markedLeaveAfter echoed shell).erase = leaveAfter echoed shell := by
      intro echoed shell
      unfold markedLeaveAfter leaveAfter
      cases echoed with
      | error error => rfl
      | ok _ => simp only [Marked.erase_bind, erase_markedLeave, Marked.erase_pure]
    simp only [markedRespond, respond, Marked.erase_bind, Marked.erase_plain, hleave]
  | failed error => rfl

theorem erase_markedStep (shell : Shell ρ σ ω) : (markedStep shell).erase = step shell := by
  simp only [markedStep, step, Marked.erase_bind, Marked.erase_plain, Marked.erase_leave,
    erase_markedRespond, pure_bind]

theorem erase_markedRunWithin (rounds : Nat) (shell : Shell ρ σ ω) :
    (markedRunWithin rounds shell).erase = runWithin rounds shell := by
  induction rounds generalizing shell with
  | zero =>
    unfold markedRunWithin runWithin
    split <;> rfl
  | succ rounds ih =>
    unfold markedRunWithin runWithin
    split
    · rfl
    · simp only [Marked.erase_bind, erase_markedStep]
      refine bind_congr fun taken => ?_
      cases taken.1 with
      | error error => rfl
      | ok _ => exact ih taken.2

/-- A loop that may make all the rounds it has left comes to its end. -/
theorem runWithin_of_roundsLeft {rounds : Nat} {shell : Shell ρ σ ω}
    (h : roundsLeft shell ≤ rounds) (host : σ) :
    (runWithin rounds shell host).value = some (run shell host).value := by
  induction rounds generalizing shell host with
  | zero =>
    rw [runWithin_eq_run (shouldExit_of_roundsLeft h)]
  | succ rounds ih =>
    cases hexit : shell.state.shouldExit with
    | true => rw [runWithin_eq_run hexit]
    | false =>
      rw [runWithin_succ hexit, Act.bind_value]
      cases hstep : (step shell host).value.1 with
      | error error =>
        rw [run_of_step_error hexit hstep]
        rfl
      | ok _ =>
        have hlt := roundsLeft_step_lt hexit hstep
        rw [run_of_step_ok hexit hstep]
        exact ih (by omega) _

/-- With its marks taken away the marked loop is the run. -/
theorem erase_marked_run (shell : Shell ρ σ ω) (host : σ) :
    (markedRunWithin (roundsLeft shell) shell).erase host =
      ⟨some (run shell host).value, (run shell host).written, (run shell host).state⟩ := by
  have hended := runWithin_of_roundsLeft (Nat.le_refl (roundsLeft shell)) host
  rw [erase_markedRunWithin, run_of_runWithin hended, ← hended]

/-! ## The marks of a round -/

/-- The command that the end of the input stands for. -/
def exitOrder : Command := ⟨exitCommand, exitCommand, [], false⟩

/-- What the end of the input shows. -/
def farewell : Bytes := Bytes.ofString (exitCommand ++ "\n")

omit [Host σ] [LineReader ρ] in
theorem echoExit_eq (shell : Shell ρ σ ω) (host : σ) :
    let delivered := Writer.deliver farewell shell.out
    echoExit shell host = ⟨(delivered.result.mapError .io, { shell with out := delivered.rest }),
      [.echo delivered.taken], host⟩ := rfl

omit [Host σ] [LineReader ρ] [Writer ω] in
theorem echoExit_sink (shell : Shell ρ σ) (host : σ) :
    let written := shell.out.write farewell
    echoExit shell host =
      ⟨(if written.whole then .ok () else .error (.io .writeRefused),
          { shell with out := written.sink }), [.echo written.taken], host⟩ := by
  intro written
  rw [echoExit_eq, Sink.deliver_eq]
  cases written.whole <;> rfl

theorem parse_exitCommand : Command.parse exitCommand = .ok exitOrder := Session.parse_exit

/-- The commands that a shell is ordered to dispatch by an answer of its reader. -/
def orders (answer : ReadAnswer) (shell : Shell ρ σ) : List Command :=
  match answer with
  | .line line => (Command.parse line).toOption.toList
  | .closed =>
    if (shell.out.write farewell).whole && shell.dispatcher.builtins.isBuiltin exitCommand then
      [exitOrder]
    else []
  | .failed _ => []

omit [LineReader ρ] in
theorem marks_markedExecuteLine (line : String) (shell : Shell ρ σ) (host : σ) :
    (markedExecuteLine line shell).marks host =
      (Command.parse line).toOption.toList.map .dispatched := by
  unfold markedExecuteLine
  cases Command.parse line <;> rfl

omit [LineReader ρ] in
theorem marks_markedLeaveAfter (echoed : Except ShellError Unit) (shell : Shell ρ σ) (host : σ) :
    (markedLeaveAfter echoed shell).marks host =
      if echoed.isOk && shell.dispatcher.builtins.isBuiltin exitCommand then
        [.dispatched exitOrder]
      else [] := by
  cases echoed with
  | error error => rfl
  | ok _ =>
    simp only [markedLeaveAfter, markedLeave, Marked.marks_bind, Marked.marks_ite,
      Marked.marks_pure, marks_markedExecuteLine, parse_exitCommand, List.append_nil]
    rfl

omit [LineReader ρ] in
/-- An answer leaves the marks of the commands it orders. -/
theorem marks_markedRespond (answer : ReadAnswer) (shell : Shell ρ σ) (host : σ) :
    (markedRespond answer shell).marks host = (orders answer shell).map .dispatched := by
  cases answer with
  | line line =>
    simp only [markedRespond, Marked.marks_ite, Marked.marks_bind, Marked.marks_pure,
      marks_markedExecuteLine, List.append_nil]
    split
    · rename_i hempty
      rw [String.isEmpty_iff.mp hempty]
      unfold orders
      simp only [Session.parse_empty]
      rfl
    · rfl
  | closed =>
    have hechoed : (echoExit shell host).value.1.isOk = (shell.out.write farewell).whole := by
      rw [echoExit_sink]
      cases (shell.out.write farewell).whole <;> rfl
    simp only [markedRespond, Marked.marks_bind, Marked.marks_plain, Marked.erase_plain,
      marks_markedLeaveAfter, List.nil_append, hechoed, orders]
    show (if _ && shell.dispatcher.builtins.isBuiltin exitCommand then _ else _) = _
    split <;> rfl
  | failed error => rfl

/-- What the next round of the loop will read. -/
def reading (shell : Shell ρ σ ω) (host : σ) : Reading ρ :=
  LineReader.read (currentPrompt (reportFinishedJobs shell host).state) shell.reader

omit [Writer ω] in
theorem readLine_reportFinishedJobs (shell : Shell ρ σ ω) (host : σ) :
    readLine (reportFinishedJobs shell host).value (reportFinishedJobs shell host).state =
      ⟨((shell.reading host).answer,
          { (reportFinishedJobs shell host).value with reader := (shell.reading host).rest }),
        [.prompt (shell.reading host).shown], (reportFinishedJobs shell host).state⟩ := by
  unfold reading
  rw [← reader_reportFinishedJobs shell host]
  rfl

omit [LineReader ρ] [Writer ω] in
/-- Telling of the finished jobs leaves all of a shell but its jobs. -/
theorem value_reportFinishedJobs (shell : Shell ρ σ ω) (host : σ) :
    (reportFinishedJobs shell host).value = { shell with
      dispatcher := { shell.dispatcher with
        jobs := (shell.dispatcher.jobs.poll host).value.2 } } := by
  unfold reportFinishedJobs
  cases shell.isQuiet <;> rfl

omit [LineReader ρ] in
theorem orders_reportFinishedJobs (answer : ReadAnswer) (shell : Shell ρ σ) (reader : ρ)
    (host : σ) : orders answer { (reportFinishedJobs shell host).value with reader } =
      orders answer shell := by
  rw [value_reportFinishedJobs]
  rfl

/-- A round leaves the mark of its read and those of the commands that were ordered. -/
theorem marks_markedStep (shell : Shell ρ σ) (host : σ) : (markedStep shell).marks host =
    .read (shell.reading host).answer ::
      (orders (shell.reading host).answer shell).map .dispatched := by
  simp only [markedStep, Marked.marks_bind, Marked.marks_plain, Marked.erase_plain,
    Marked.erase_leave, Marked.marks_leave, marks_markedRespond, List.nil_append,
    List.singleton_append, readLine_reportFinishedJobs, orders_reportFinishedJobs]

/-- The marks of a loop that goes on are those of its first round and those of the rest. -/
theorem marks_markedRunWithin (rounds : Nat) {shell : Shell ρ σ ω} {host : σ}
    (hgo : shell.state.shouldExit = false) (hstep : (step shell host).value.1 = .ok ()) :
    (markedRunWithin (rounds + 1) shell).marks host = (markedStep shell).marks host ++
      (markedRunWithin rounds (step shell host).value.2).marks (step shell host).state := by
  rw [markedRunWithin, if_neg (by rw [hgo]; exact Bool.false_ne_true), Marked.marks_bind,
    erase_markedStep, hstep]

theorem marks_of_shouldExit {shell : Shell ρ σ ω} (h : shell.state.shouldExit = true)
    (rounds : Nat) (host : σ) : (markedRunWithin rounds shell).marks host = [] := by
  cases rounds <;> rw [markedRunWithin, if_pos h] <;> rfl

theorem marks_of_step_error {shell : Shell ρ σ ω} {host : σ} {error : ShellError} (rounds : Nat)
    (hgo : shell.state.shouldExit = false) (hstep : (step shell host).value.1 = .error error) :
    (markedRunWithin (rounds + 1) shell).marks host = (markedStep shell).marks host := by
  rw [markedRunWithin, if_neg (by rw [hgo]; exact Bool.false_ne_true), Marked.marks_bind,
    erase_markedStep, hstep]
  exact List.append_nil _

/-- A loop that may make all the rounds it has left leaves the marks of its rounds. -/
theorem marks_markedRunWithin_of_roundsLeft {rounds : Nat} {shell : Shell ρ σ ω}
    (h : roundsLeft shell ≤ rounds) (host : σ) : (markedRunWithin rounds shell).marks host =
      (shell.rounds host).flatMap fun round => (markedStep round.1).marks round.2 := by
  induction rounds generalizing shell host with
  | zero =>
    have hexit := shouldExit_of_roundsLeft h
    rw [marks_of_shouldExit hexit, rounds_of_shouldExit hexit]
    rfl
  | succ rounds ih =>
    cases hexit : shell.state.shouldExit with
    | true =>
      rw [marks_of_shouldExit hexit, rounds_of_shouldExit hexit]
      rfl
    | false =>
      cases hstep : (step shell host).value.1 with
      | error error =>
        rw [marks_of_step_error rounds hexit hstep, rounds_of_step_error hexit hstep,
          List.flatMap_singleton]
      | ok _ =>
        have hlt := roundsLeft_step_lt hexit hstep
        rw [marks_markedRunWithin rounds hexit hstep, rounds_of_step_ok hexit hstep,
          List.flatMap_cons, ih (by omega)]

/-- The marks of a run are those of its rounds. -/
theorem marks_eq_rounds (shell : Shell ρ σ ω) (host : σ) : shell.marks host =
    (shell.rounds host).flatMap fun round => (markedStep round.1).marks round.2 :=
  marks_markedRunWithin_of_roundsLeft (Nat.le_refl _) host

end Shell

end JobShell
