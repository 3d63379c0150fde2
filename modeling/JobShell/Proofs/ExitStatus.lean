import JobShell.Program
import JobShell.Proofs.CommandLine
import JobShell.Proofs.Options

/-!
# The exit status of the program

The arguments alone decide whether the program reports a failure, shows a text, runs one command
line or runs the read loop; only the last reads anything (`Program.exit_status_of_arguments`).  The
code that comes of a command line or of the loop is reduced to a byte, and the code of a child fits
in one, so it is the status as it stands (`Status.exitStatus_code`).
-/

namespace JobShell

/-! ## The codes of children -/

/-- How a command ends that is no built-in. -/
def Status.ofChild : Status → Prop
  | builtin _ => False
  | _ => True

theorem Dispatcher.status_launch {σ : Type} [Host σ] {cmd : Command} {dispatcher : Dispatcher σ}
    {host : σ} {status : Status} (h : (launch cmd dispatcher host).value.1 = .ok status) :
    status.ofChild := by
  rcases launch_value_cases cmd dispatcher host with
    ⟨error, -, hvalue⟩ | ⟨pid, -, ⟨-, hvalue⟩ | ⟨-, hvalue⟩⟩
  · rw [hvalue] at h
    cases h
  · rw [hvalue] at h
    cases h
    trivial
  · rw [hvalue] at h
    rcases Child.await_cases pid (attempt cmd host).state with
      ⟨code, hwaited⟩ | ⟨signal, hwaited⟩ | ⟨errno, hwaited⟩
    · rw [hwaited] at h
      cases h
      trivial
    · rw [hwaited] at h
      cases h
      trivial
    · rw [hwaited] at h
      cases h

namespace Program

theorem exitStatus_lt (code : Int) : exitStatus code < 256 := by
  unfold exitStatus
  omega

theorem exitStatus_eq (code : Int) : (exitStatus code : Int) = code % 256 := by
  unfold exitStatus
  omega

end Program

/-- The code of a child is a byte. -/
theorem Status.code_ofChild {status : Status} (h : status.ofChild)
    (hbyte : ∀ code, status = .exited code → 0 ≤ code ∧ code < 256) :
    0 ≤ status.code ∧ status.code < 256 := by
  cases status with
  | builtin code => cases h
  | exited code => exact hbyte code rfl
  | signaled signal =>
    have hnumber : signal.number < 32 := by cases signal <;> decide
    simp only [Status.code]
    omega
  | detached pid => exact ⟨Int.le_refl 0, by simp [Status.code]⟩

/-- The status of a child is its code as it stands, and 0 only if it ended so or runs on. -/
theorem Status.exitStatus_code {status : Status} (h : status.ofChild)
    (hbyte : ∀ code, status = .exited code → 0 ≤ code ∧ code < 256) :
    (Program.exitStatus status.code : Int) = status.code ∧
      (Program.exitStatus status.code = 0 ↔
        status = .exited 0 ∨ ∃ pid, status = .detached pid) := by
  obtain ⟨hge, hlt⟩ := status.code_ofChild h hbyte
  have hcode : (Program.exitStatus status.code : Int) = status.code := by
    rw [Program.exitStatus_eq]
    omega
  refine ⟨hcode, ?_⟩
  have hzero : Program.exitStatus status.code = 0 ↔ status.code = 0 := by omega
  rw [hzero]
  cases status with
  | builtin code => cases h
  | exited code => simp [Status.code]
  | signaled signal =>
    simp only [Status.code, reduceCtorEq, exists_false, or_false, iff_false]
    omega
  | detached pid => simp [Status.code]

variable {ρ ρ' σ : Type} [Host σ]

/-! ## The reader has no part in a command line -/

namespace Shell

theorem executeLine_moved (line : String) (shell : Shell ρ σ) (reader : ρ') (out : Sink)
    (host : σ) :
    executeLine line (shell.moved reader out) host =
      ⟨((executeLine line shell host).value.1,
          (executeLine line shell host).value.2.moved reader out),
        (executeLine line shell host).written, (executeLine line shell host).state⟩ := by
  unfold executeLine
  cases Command.parse line with
  | error e => rfl
  | ok cmd => exact execute_moved cmd shell reader out host

theorem runCommand_moved (line : String) (shell : Shell ρ σ) (reader : ρ') (out : Sink) (host : σ) :
    runCommand line (shell.moved reader out) host =
      ⟨((runCommand line shell host).value.1,
          (runCommand line shell host).value.2.moved reader out),
        (runCommand line shell host).written, (runCommand line shell host).state⟩ := by
  unfold runCommand
  split
  · rfl
  · simp only [Act.bind_apply, executeLine_moved, Act.pure_apply]

theorem reader_runCommand (line : String) (shell : Shell ρ σ) (host : σ) :
    (runCommand line shell host).value.2.reader = shell.reader := by
  unfold runCommand
  split
  · rfl
  · exact reader_executeLine line shell host

theorem installSignalHandlers_moved (shell : Shell ρ σ) (reader : ρ') (out : Sink) (host : σ) :
    installSignalHandlers (shell.moved reader out) host =
      ⟨((installSignalHandlers shell host).value.1,
          (installSignalHandlers shell host).value.2.moved reader out),
        (installSignalHandlers shell host).written, (installSignalHandlers shell host).state⟩ := by
  unfold installSignalHandlers
  simp only [Act.bind_apply, Act.ask_value]
  cases (Host.catchInterrupts host).value <;> rfl

/-- A line that runs a child comes to the code of its status, or to 1 if none came of it. -/
theorem code_runCommand {line : String} {cmd : Command} {shell : Shell ρ σ} {host : σ}
    (hparse : Command.parse line = .ok cmd)
    (hfound : shell.dispatcher.builtins.get? cmd.name = none) :
    let dispatched := (shell.dispatcher.dispatch cmd shell.state host).value.1
    (∀ status, dispatched = .ok status →
      (runCommand line shell host).value.1 = status.code ∧ status.ofChild) ∧
    (∀ error, dispatched = .error error → (runCommand line shell host).value.1 = 1) := by
  intro dispatched
  constructor
  · intro status hstatus
    have hlaunched : (shell.dispatcher.dispatch cmd shell.state host).value.1 = .ok status :=
      hstatus
    rw [(Dispatcher.dispatch_launched hfound shell.state host).1] at hlaunched
    exact ⟨congrArg (·.1) (runCommand_ended hparse hstatus), Dispatcher.status_launch hlaunched⟩
  · intro error herror
    exact congrArg (·.1) (runCommand_failed hparse herror)

end Shell

/-! ## The program -/

namespace Program

variable [LineReader ρ] [LineReader ρ']

omit [LineReader ρ] in
/-- A line that runs a child comes to the code of its status unreduced. -/
theorem exitStatus_runCommand {line : String} {cmd : Command} {shell : Shell ρ σ} {host : σ}
    (hparse : Command.parse line = .ok cmd)
    (hfound : shell.dispatcher.builtins.get? cmd.name = none) :
    let dispatched := (shell.dispatcher.dispatch cmd shell.state host).value.1
    let ended := exitStatus (shell.runCommand line host).value.1
    (∀ status, dispatched = .ok status →
      (∀ code, status = .exited code → 0 ≤ code ∧ code < 256) →
      (ended : Int) = status.code ∧
        (ended = 0 ↔ status = .exited 0 ∨ ∃ pid, status = .detached pid)) ∧
    (∀ error, dispatched = .error error → ended = 1) := by
  intro dispatched ended
  obtain ⟨hok, hfailed⟩ := Shell.code_runCommand hparse hfound
  constructor
  · intro status hstatus hbyte
    obtain ⟨hcode, hchild⟩ := hok status hstatus
    have hended : ended = exitStatus status.code := congrArg exitStatus hcode
    rw [hended]
    exact status.exitStatus_code hchild hbyte
  · intro error herror
    exact congrArg exitStatus (hfailed error herror)

theorem work_command {flags : Flags} {line : String} (h : flags.command = some line)
    (shell : Shell ρ σ) (host : σ) : work flags shell host =
      ⟨exitStatus (shell.runCommand line host).value.1, (shell.runCommand line host).written,
        (shell.runCommand line host).state⟩ := by
  unfold work conclude
  simp only [h, Act.bind_apply, Act.pure_apply, List.append_nil]

theorem work_loop {flags : Flags} (h : flags.command = none) (shell : Shell ρ σ) (host : σ) :
    let looped := shell.run host
    (∀ code, looped.value.1 = .ok code →
      work flags shell host = ⟨exitStatus code, looped.written, looped.state⟩) ∧
    (∀ error, looped.value.1 = .error error → work flags shell host =
      ⟨1, looped.written ++ [.message s!"Error: {structural error}"], looped.state⟩) := by
  intro looped
  have hwork : work flags shell host =
      ⟨(conclude looped.value.1 looped.state).value,
        looped.written ++ (conclude looped.value.1 looped.state).written,
        (conclude looped.value.1 looped.state).state⟩ := by
    unfold work
    rw [h]
    rfl
  rw [hwork]
  constructor
  · intro code hcode
    rw [hcode]
    simp only [conclude, Act.pure_apply, List.append_nil]
  · intro error herror
    rw [herror]
    rfl

section

variable {args : List String} {flags : Flags}

theorem run_refused {error : ShellError} (h : ({} : Flags).scan args = (flags, .error error))
    (reader : ρ) (host : σ) :
    run args reader host = ⟨1, [.message s!"Error: {structural error}"], host⟩ := by
  unfold run start
  rw [h]
  rfl

variable (h : ({} : Flags).scan args = (flags, .ok ()))

include h

theorem run_help (hhelp : flags.isSet .help = true) (reader : ρ) (host : σ) :
    run args reader host = ⟨0, [.echo (Bytes.ofString Flags.usage)], host⟩ := by
  unfold run start
  simp only [h, hhelp, if_true]
  rfl

variable (hhelp : flags.isSet .help = false)

include hhelp

theorem run_version (hversion : flags.isSet .version = true) (reader : ρ) (host : σ) :
    run args reader host = ⟨0, [.echo (Bytes.ofString versionText)], host⟩ := by
  unfold run start
  simp only [h, hhelp, hversion, Bool.false_eq_true, if_false, if_true]
  rfl

theorem run_ready (hversion : flags.isSet .version = false) {reader : ρ} {host : σ}
    (hinstalled :
      ((Shell.new flags reader : Shell ρ σ).installSignalHandlers host).value.1 = .ok ()) :
    let installed := (Shell.new flags reader : Shell ρ σ).installSignalHandlers host
    let worked := work flags installed.value.2 installed.state
    run args reader host = ⟨worked.value, installed.written ++ worked.written, worked.state⟩ := by
  unfold run start
  simp only [h, hhelp, hversion, Bool.false_eq_true, if_false, Act.bind_apply, hinstalled]

end

omit [LineReader ρ] in
/-- The installed shell has the usual built-ins and the reader it was given. -/
theorem installed_shell (flags : Flags) (reader : ρ) (host : σ) :
    let shell := ((Shell.new flags reader : Shell ρ σ).installSignalHandlers host).value.2
    shell.dispatcher.builtins = .defaults ∧ shell.reader = reader := by
  unfold Shell.installSignalHandlers
  rw [Act.bind_value, Act.ask_value]
  cases (Host.catchInterrupts host).value <;> exact ⟨rfl, rfl⟩

/-- A program that runs a command line does the same whatever its reader is. -/
theorem run_command_any_reader {args : List String} {flags : Flags} {line : String}
    (h : ({} : Flags).scan args = (flags, .ok ())) (hline : flags.command = some line)
    (reader : ρ) (reader' : ρ') (host : σ) : run args reader' host = run args reader host := by
  cases hhelp : flags.isSet .help with
  | true => rw [run_help h hhelp, run_help h hhelp]
  | false =>
    cases hversion : flags.isSet .version with
    | true => rw [run_version h hhelp hversion, run_version h hhelp hversion]
    | false =>
      have hmoved : (Shell.new flags reader' : Shell ρ' σ) =
          (Shell.new flags reader : Shell ρ σ).moved reader' {} := rfl
      have hinstalled := Shell.installSignalHandlers_moved (Shell.new flags reader : Shell ρ σ)
        reader' {} host
      unfold run start
      simp only [h, hhelp, hversion, Bool.false_eq_true, if_false, Act.bind_apply, hmoved,
        hinstalled]
      cases ((Shell.new flags reader : Shell ρ σ).installSignalHandlers host).value.1 with
      | error error => rfl
      | ok _ => simp only [work_command hline, Shell.runCommand_moved]

/-- **The exit status follows from the arguments.**  Arguments that cannot be read end the program
with 1, whatever was set before; the usage and then the version end it with 0; in none of these
cases is the host asked anything.  A command line is the last one that was given: it is run once,
whatever the reader is, and the code it comes to is reduced modulo 256.  Else the loop is run, and
its code is reduced alike, or the status is 1 if it fails.  The code of a child is the status
unreduced, and 0 exactly if the child ended so or was left in the background. -/
theorem exit_status_of_arguments (args : List String) (reader : ρ) (host : σ) :
    let scanned : Flags × Except ShellError Unit := ({} : Flags).scan args
    let flags : Flags := scanned.1
    let installed := (Shell.new flags reader : Shell ρ σ).installSignalHandlers host
    let ran : Outcome Entry σ Nat := run args reader host
    (∀ error, scanned.2 = .error error →
      ran = ⟨1, [.message s!"Error: {structural error}"], host⟩) ∧
    (scanned.2 = .ok () → flags.isSet .help = true →
      ran = ⟨0, [.echo (Bytes.ofString Flags.usage)], host⟩) ∧
    (scanned.2 = .ok () → flags.isSet .help = false → flags.isSet .version = true →
      ran = ⟨0, [.echo (Bytes.ofString versionText)], host⟩) ∧
    (scanned.2 = .ok () → flags.isSet .help = false → flags.isSet .version = false →
      installed.value.1 = .ok () →
      (∀ line, flags.command = some line →
        let called := installed.value.2.runCommand line installed.state
        (∃ before option after, args = before ++ option :: line :: after ∧
          (option = "-c" ∨ option = "--command") ∧ (({} : Flags).scan before).2 = .ok () ∧
          (({} : Flags).scan after).1.command = none) ∧
        ran = ⟨exitStatus called.value.1, installed.written ++ called.written, called.state⟩ ∧
        called.value.2.reader = reader ∧
        (∀ {ρ' : Type} [LineReader ρ'] (reader' : ρ'), run args reader' host = ran) ∧
        (∀ cmd, Command.parse line = .ok cmd →
          (Builtins.defaults : Builtins σ).isBuiltin cmd.name = false →
          let dispatched := installed.value.2.dispatcher.dispatch cmd installed.value.2.state
            installed.state
          (∀ status, dispatched.value.1 = .ok status →
            (∀ code, status = .exited code → 0 ≤ code ∧ code < 256) →
            (ran.value : Int) = status.code ∧
              (ran.value = 0 ↔ status = .exited 0 ∨ ∃ pid, status = .detached pid)) ∧
          (∀ error, dispatched.value.1 = .error error → ran.value = 1))) ∧
      (flags.command = none →
        let looped := installed.value.2.run installed.state
        (∀ code, looped.value.1 = .ok code →
          ran = ⟨exitStatus code, installed.written ++ looped.written, looped.state⟩))) ∧
    (∀ (flags : Flags) (shell : Shell ρ σ) (host : σ), flags.command = none →
      (∀ code, (shell.run host).value.1 = .ok code →
        (work flags shell host).value = exitStatus code) ∧
      ∀ error, (shell.run host).value.1 = .error error → (work flags shell host).value = 1) ∧
    (∀ code, exitStatus code < 256 ∧ (exitStatus code : Int) = code % 256) := by
  intro scanned flags installed ran
  have hscanned : ∀ {outcome}, scanned.2 = outcome → ({} : Flags).scan args = (flags, outcome) :=
    fun h => Prod.ext rfl h
  refine ⟨fun error h => run_refused (hscanned h) reader host,
    fun h hhelp => run_help (hscanned h) hhelp reader host,
    fun h hhelp hversion => run_version (hscanned h) hhelp hversion reader host,
    fun h hhelp hversion hinstalled => ⟨fun line hline => ?_, fun hline => ?_⟩,
    fun flags shell host hline => ⟨fun code hcode => ?_, fun error herror => ?_⟩,
    fun code => ⟨exitStatus_lt code, exitStatus_eq code⟩⟩
  · intro called
    obtain ⟨hbuiltins, hreader⟩ := installed_shell flags reader host
    have hran : ran = _ := run_ready (hscanned h) hhelp hversion hinstalled
    have hvalue : ran = ⟨exitStatus called.value.1, installed.written ++ called.written,
        called.state⟩ := by
      rw [hran, work_command hline]
    refine ⟨Flags.last_command hline, hvalue,
      (Shell.reader_runCommand line installed.value.2 installed.state).trans hreader,
      fun reader' => run_command_any_reader (hscanned h) hline reader reader' host,
      fun cmd hparse hfound => ?_⟩
    have hnone : installed.value.2.dispatcher.builtins.get? cmd.name = none := by
      rw [show installed.value.2.dispatcher.builtins = _ from hbuiltins]
      exact Option.isNone_iff_eq_none.mp (Option.isSome_eq_false_iff.mp hfound)
    rw [hvalue]
    exact exitStatus_runCommand hparse hnone
  · intro looped code hcode
    have hran : ran = _ := run_ready (hscanned h) hhelp hversion hinstalled
    rw [hran, (work_loop hline installed.value.2 installed.state).1 code hcode]
  · rw [(work_loop hline shell host).1 code hcode]
  · rw [(work_loop hline shell host).2 error herror]

/-- Input that ends the loop with another code. -/
def unread : StreamReader := { input := Bytes.ofString "exit 7" }

/-- An option may be the value of another, and the last command line counts; its code is
negative. -/
theorem exit_status_of_arguments_reduced :
    let args := ["-q", "-c", "-h", "-c", "exit -1"]
    (run args unread Simulation.single).value = 255 ∧
      ∀ editor : Editor, run args editor Simulation.single = run args unread Simulation.single := by
  intro args
  obtain ⟨-, -, -, hready, -⟩ := exit_status_of_arguments args unread Simulation.single
  obtain ⟨hcommand, -⟩ :=
    hready (by decide +kernel) (by decide +kernel) (by decide +kernel) (by rfl)
  obtain ⟨-, hran, -, hreader, -⟩ := hcommand "exit -1" (by decide +kernel)
  refine ⟨?_, fun editor => hreader editor⟩
  rw [hran]
  decide +kernel

end Program

end JobShell
