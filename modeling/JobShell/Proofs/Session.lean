import JobShell.Proofs.Rounds
import JobShell.Proofs.Segments

/-!
# What the read loop does

`Session.follow` says it line by line, by recursion on the segments of the input: before each line
the finished jobs are told of and a prompt is written; a line is obeyed; the loop stops behind the
first line after which an exit is requested, behind a line that is no text, and at the end of the
input, which runs the built-in `exit`.

The loop of a shell that reads a stream does exactly this, in at most one round for each segment and
one for the end (`runWithin_shell`).
-/

namespace JobShell

/-- What the read loop carries from line to line. -/
structure Session (σ : Type) where
  state : ShellState := {}
  dispatcher : Dispatcher σ

/-- What has come of following segments. -/
structure Followed (σ : Type) where
  session : Session σ
  /-- The segments that were left. -/
  unread : List Bytes
  reads : Nat

namespace Session

variable {σ : Type}

def requestExit (session : Session σ) : Session σ :=
  { session with state := session.state.requestExit }

/-- The shell that is in this session and has this input before it. -/
def shell (flags : Flags) (input : Bytes) (session : Session σ) : Shell StreamReader σ :=
  { reader := { input }, flags, state := session.state, dispatcher := session.dispatcher }

variable [Host σ]

/-- Tells of the finished jobs, unless the shell is quiet, and prompts. -/
def prompted (quiet : Bool) (session : Session σ) : Act σ (Session σ) := do
  let reaped ← session.dispatcher.reapFinished
  if quiet then pure () else Shell.writeNotices reaped.1
  let prompt ← Act.view Shell.currentPrompt
  Act.write (.prompt (Bytes.ofString prompt))
  pure { session with dispatcher := reaped.2 }

/-- Dispatches the command of a line, if it has one; the status is recorded, and where none came of
it that is reported and nothing is recorded. -/
def obey (line : String) (session : Session σ) : Act σ (Session σ) :=
  match Command.parse line with
  | .error .empty => pure session
  | .ok cmd => do
    let dispatched ← session.dispatcher.dispatch cmd session.state
    match dispatched.1 with
    | .ok status => do
      Act.debug .readLoop s!"{cmd.name} -> {status.structural}"
      pure ⟨dispatched.2.1.record status, dispatched.2.2⟩
    | .error error => do
      Act.warn .readLoop s!"failed to launch {cmd.name}: {error.message}"
      Act.write (.failure s!"{cmd.name}: {error.message}")
      pure ⟨dispatched.2.1, dispatched.2.2⟩

/-- A segment is obeyed without its terminator; one that is no text requests an exit. -/
def heed (segment : Bytes) (session : Session σ) : Act σ (Session σ) :=
  match segment.text? with
  | some text => obey (String.ofList (withoutTerminator text.toList)) session
  | none => do
    let error := ShellError.io .invalidText
    Act.warn .readLoop s!"read failed: {error.message}"
    Act.write (.failure error.message)
    pure session.requestExit

/-- Runs the built-in `exit`, if there is one. -/
def depart (session : Session σ) : Act σ (Session σ) :=
  match session.dispatcher.builtins.get? "exit" with
  | none => pure session
  | some registration => do
    Act.debug .dispatcher "running builtin exit"
    let called ← session.dispatcher.builtins.call registration ⟨"exit", "exit", [], false⟩
      session.state
    Act.debug .readLoop s!"exit -> {(Status.builtin called.1).structural}"
    pure ⟨called.2.1.record (.builtin called.1),
      { session.dispatcher with builtins := called.2.2 }⟩

/-- The end of the input shows as `exit`, and requests an exit whatever its built-in does. -/
def close (session : Session σ) : Act σ (Session σ) := do
  Act.write (.echo (Bytes.ofString "exit\n"))
  let session ← depart session
  pure session.requestExit

/-- Follows the segments of the input. -/
def follow (quiet : Bool) : List Bytes → Session σ → Act σ (Followed σ)
  | [], session => do
    let session ← prompted quiet session
    let session ← close session
    pure ⟨session, [], 1⟩
  | segment :: rest, session => do
    let session ← prompted quiet session
    let session ← heed segment session
    if session.state.shouldExit then pure ⟨session, rest, 1⟩
    else do
      let later ← follow quiet rest session
      pure { later with reads := later.reads + 1 }

/-- The end of the loop: the exit code is returned, and the shell is left before what was unread. -/
def leave (flags : Flags) (unread : Bytes) (session : Session σ) :
    Act σ (Except ShellError Int × Shell StreamReader σ) := do
  Act.debug .readLoop s!"leaving read loop with code {session.state.exitCode}"
  pure (.ok session.state.exitCode, session.shell flags unread)

/-! ## The steps of the shell -/

/-- What a reader of a stream answers, and the input it leaves. -/
def taken (input : Bytes) : ReadAnswer × Bytes :=
  if input.isEmpty then (.closed, [])
  else (StreamReader.answer (cutLine input).1, (cutLine input).2)

omit [Host σ] in
theorem read_input (prompt : String) (input : Bytes) :
    LineReader.read prompt ({ input } : StreamReader) =
      ⟨(taken input).1, Bytes.ofString prompt, { input := (taken input).2 }⟩ := by
  show StreamReader.read prompt { input } = _
  unfold StreamReader.read taken
  cases input <;> rfl

/-- Telling of the finished jobs, prompting and reading, up to the answer of the reader. -/
theorem prompted_shell (flags : Flags) (input : Bytes) (session : Session σ) :
    (do
      let shell ← Shell.reportFinishedJobs (session.shell flags input)
      Shell.readLine shell) =
    (do
      let session ← prompted (flags.isSet .quiet) session
      pure ((taken input).1, session.shell flags (taken input).2) : Act σ _) := by
  have hread : ∀ reaped : List FinishedJob × Dispatcher σ,
      Shell.readLine { session.shell flags input with dispatcher := reaped.2 } =
        (do
          let prompt ← Act.view Shell.currentPrompt
          Act.write (.prompt (Bytes.ofString prompt))
          pure ((taken input).1, shell flags (taken input).2 ⟨session.state, reaped.2⟩)) := by
    intro reaped
    unfold Shell.readLine
    refine bind_congr fun prompt => ?_
    simp only [shell, read_input]
  have hquiet : (session.shell flags input).isQuiet = flags.isSet .quiet := rfl
  unfold Shell.reportFinishedJobs prompted
  rw [hquiet]
  simp only [bind_assoc]
  refine bind_congr fun reaped => ?_
  cases flags.isSet .quiet with
  | true =>
    simp only [if_true, pure_bind, bind_assoc]
    exact hread reaped
  | false =>
    simp only [Bool.false_eq_true, if_false, pure_bind, bind_assoc]
    exact bind_congr fun _ => hread reaped

/-- A line is run as it is obeyed, whatever comes after it. -/
theorem obey_shell {α : Type} (line : String) (flags : Flags) (input : Bytes)
    (session : Session σ) (next : Shell StreamReader σ → Act σ α) :
    (do
      let ran ← Shell.executeLine line (session.shell flags input)
      next ran.2) =
    (do
      let session ← obey line session
      next (session.shell flags input)) := by
  unfold Shell.executeLine obey
  cases Command.parse line with
  | error e => rfl
  | ok cmd =>
    unfold Shell.execute
    simp only [bind_assoc]
    refine bind_congr fun dispatched => ?_
    unfold Shell.conclude
    cases dispatched.1 with
    | ok status => rfl
    | error error => rfl

theorem parse_empty : Command.parse "" = .error .empty := by cbv

theorem parse_exit : Command.parse Shell.exitCommand = .ok ⟨"exit", "exit", [], false⟩ := by cbv

/-- A line is answered to as it is obeyed; an empty one needs no test of its own. -/
theorem line_shell (line : String) (flags : Flags) (input : Bytes) (session : Session σ) :
    Shell.respond (.line line) (session.shell flags input) =
    (do
      let session ← obey line session
      pure (.ok (), session.shell flags input) : Act σ _) := by
  show (if line.isEmpty then pure (Except.ok (), session.shell flags input)
    else do
      let ran ← Shell.executeLine line (session.shell flags input)
      pure (Except.ok (), ran.2)) = _
  by_cases hline : line.isEmpty = true
  · have hempty : line = "" := String.isEmpty_iff.mp hline
    have hobey : obey line session = pure session := by
      unfold obey
      rw [hempty, parse_empty]
    rw [if_pos hline, hobey]
    rfl
  · rw [if_neg hline]
    exact obey_shell line flags input session fun shell => pure (Except.ok (), shell)

/-- What is registered as `exit` is run as the line `exit` is. -/
theorem depart_eq_obey {session : Session σ} {registration : Registration σ}
    (hfound : session.dispatcher.builtins.get? "exit" = some registration) :
    depart session = obey Shell.exitCommand session := by
  have hdispatch : session.dispatcher.dispatch ⟨"exit", "exit", [], false⟩ session.state =
      (do
        Act.debug .dispatcher "running builtin exit"
        let called ← session.dispatcher.builtins.call registration
          ⟨"exit", "exit", [], false⟩ session.state
        pure (.ok (.builtin called.1), called.2.1,
          { session.dispatcher with builtins := called.2.2 })) := by
    unfold Dispatcher.dispatch
    rw [hfound]
    rfl
  unfold depart obey
  rw [hfound, parse_exit]
  simp only [hdispatch, bind_assoc, pure_bind]
  rfl

theorem depart_shell (flags : Flags) (input : Bytes) (session : Session σ) :
    Shell.leave (session.shell flags input) =
    (do
      let session ← depart session
      pure (session.requestExit.shell flags input) : Act σ _) := by
  have hbuiltin : (session.shell flags input).dispatcher.builtins.isBuiltin Shell.exitCommand =
      (session.dispatcher.builtins.get? "exit").isSome := rfl
  unfold Shell.leave
  rw [hbuiltin]
  cases hfound : session.dispatcher.builtins.get? "exit" with
  | none =>
    unfold depart
    rw [hfound]
    rfl
  | some registration =>
    rw [if_pos Option.isSome_some, depart_eq_obey hfound]
    exact obey_shell Shell.exitCommand flags input session fun shell => pure shell.requestExit

/-- The end of the input is answered to as the session is closed. -/
theorem close_shell (flags : Flags) (input : Bytes) (session : Session σ) :
    Shell.respond .closed (session.shell flags input) =
    (do
      let session ← close session
      pure (.ok (), session.shell flags input) : Act σ _) := by
  have hecho : Shell.echoExit (session.shell flags input) =
      (do
        Act.write (.echo (Bytes.ofString "exit\n"))
        pure (.ok (), session.shell flags input) : Act σ _) := rfl
  show (do
    let echoed ← Shell.echoExit (session.shell flags input)
    Shell.leaveAfter echoed.1 echoed.2) = _
  unfold close
  rw [hecho]
  simp only [bind_assoc, pure_bind]
  refine bind_congr fun _ => ?_
  show (do
    let shell ← Shell.leave (session.shell flags input)
    pure (Except.ok (), shell)) = _
  rw [depart_shell]
  simp only [bind_assoc, pure_bind]

/-! ## The loop -/

theorem finish_shell (flags : Flags) (input : Bytes) (session : Session σ) :
    Shell.finish (session.shell flags input) = leave flags input session := rfl

/-- A round prompts, takes the next segment if there is one, and answers to it. -/
theorem step_shell (flags : Flags) (input : Bytes) (session : Session σ) :
    Shell.step (session.shell flags input) =
    (do
      let session ← prompted (flags.isSet .quiet) session
      Shell.respond (taken input).1 (session.shell flags (taken input).2)) := by
  have hprompted := congrArg (fun act => act >>= fun read => Shell.respond read.1 read.2)
    (prompted_shell flags input session)
  simp only [bind_assoc, pure_bind] at hprompted
  exact hprompted

theorem taken_nil : taken [] = (.closed, []) := rfl

theorem taken_of_ne_nil {input : Bytes} (h : input ≠ []) :
    taken input = (StreamReader.answer (cutLine input).1, (cutLine input).2) := by
  unfold taken
  rw [if_neg (by simpa using h)]

end Session

end JobShell
