import JobShell.Proofs.FailedCommand
import JobShell.Proofs.LineGrammar

/-!
# What comes of a command line

A line outside the loop is looked at twice: it is skipped if nothing is left of it without the white
space around it, and it is no command if no word is left without its marker.  The two differ on the
lines that have a marker and nothing else, so three kinds of line are told apart
(`Shell.runCommand_skipped`, `Shell.runCommand_marker`, `Shell.runCommand_command`).  The codes do
not tell as many: a marker that stands alone counts as a launch that failed
(`Shell.lone_marker_counts_as_failure`), and with this the code is known of every line
(`Shell.run_command_tells_apart`).
-/

namespace JobShell

namespace Command

/-- Nothing is left of a line without the white space around it if it has nothing else. -/
theorem trim_isEmpty_iff {line : String} :
    (Text.trim line.toList).isEmpty = true ↔ solid line = [] := by
  rw [List.isEmpty_iff, Text.trim_eq_nil_iff, solid_eq_nil_iff]

theorem solid_ne_nil {line : String} {cmd : Command} (h : parse line = .ok cmd) :
    solid line ≠ [] := by
  intro hsolid
  rw [(parse_eq_empty_iff line).mpr (Or.inl hsolid)] at h
  cases h

end Command

namespace Shell

variable {ρ σ : Type} [Host σ]

theorem runCommand_of_solid {line : String} (h : Command.solid line ≠ []) (shell : Shell ρ σ) :
    runCommand line shell = (do
      let executed ← executeLine line shell
      pure ((executed.1.map Status.code).getD 1, executed.2) : Act σ (Int × Shell ρ σ)) := by
  unfold runCommand
  rw [if_neg fun hempty => h (Command.trim_isEmpty_iff.mp hempty)]

theorem runCommand_skipped {line : String} (h : Command.solid line = []) (shell : Shell ρ σ) :
    runCommand line shell = pure (0, shell) := by
  unfold runCommand
  rw [if_pos (Command.trim_isEmpty_iff.mpr h)]

theorem runCommand_marker {line : String} (h : Command.solid line = [Command.backgroundMarker])
    (shell : Shell ρ σ) : runCommand line shell = pure (1, shell) := by
  have hparse : Command.parse line = .error .empty :=
    (Command.parse_eq_empty_iff line).mpr (Or.inr h)
  rw [runCommand_of_solid (by rw [h]; exact List.cons_ne_nil _ _), executeLine_blank hparse]
  rfl

theorem runCommand_command {line : String} {cmd : Command} (h : Command.parse line = .ok cmd)
    (shell : Shell ρ σ) : runCommand line shell = (do
      let executed ← execute cmd shell
      pure ((executed.1.map Status.code).getD 1, executed.2) : Act σ (Int × Shell ρ σ)) := by
  rw [runCommand_of_solid (Command.solid_ne_nil h), executeLine_command h]

/-- What a command comes to is recorded. -/
theorem execute_ended {cmd : Command} {shell : Shell ρ σ} {host : σ} {status : Status}
    (h : (shell.dispatcher.dispatch cmd shell.state host).value.1 = .ok status) :
    let dispatched := shell.dispatcher.dispatch cmd shell.state host
    (execute cmd shell host).value = (some status, { shell with
        state := dispatched.value.2.1.record status
        dispatcher := dispatched.value.2.2 }) := by
  intro dispatched
  unfold execute conclude
  simp only [Act.bind_value, h]
  rfl

/-- A command is dispatched, and nothing else is asked for it. -/
theorem state_execute (cmd : Command) (shell : Shell ρ σ) (host : σ) :
    (execute cmd shell host).state =
      (shell.dispatcher.dispatch cmd shell.state host).state := by
  unfold execute conclude
  rw [Act.bind_state]
  cases (shell.dispatcher.dispatch cmd shell.state host).value.1 <;> rfl

section

variable {line : String} {cmd : Command} (hparse : Command.parse line = .ok cmd)
  {shell : Shell ρ σ} {host : σ}

include hparse

theorem state_runCommand : (runCommand line shell host).state =
    (shell.dispatcher.dispatch cmd shell.state host).state := by
  rw [runCommand_command hparse]
  exact state_execute cmd shell host

theorem runCommand_ended {status : Status}
    (h : (shell.dispatcher.dispatch cmd shell.state host).value.1 = .ok status) :
    let dispatched := shell.dispatcher.dispatch cmd shell.state host
    (runCommand line shell host).value = (status.code, { shell with
      state := dispatched.value.2.1.record status
      dispatcher := dispatched.value.2.2 }) := by
  intro dispatched
  rw [runCommand_command hparse, Act.bind_value, execute_ended h]
  rfl

theorem runCommand_failed {error : ProcessError}
    (h : (shell.dispatcher.dispatch cmd shell.state host).value.1 = .error error) :
    (runCommand line shell host).value = (1, shell) := by
  rw [runCommand_command hparse, Act.bind_value, (execute_failed h).1]
  rfl

end

/-- A line comes to 1 without a status exactly if it is a marker alone or could not be launched. -/
theorem runCommand_eq_one_iff (line : String) (shell : Shell ρ σ) (host : σ) :
    ((runCommand line shell host).value.1 = 1 ∧ (executeLine line shell host).value.1 = none) ↔
      Command.solid line = [Command.backgroundMarker] ∨
        ∃ cmd error, Command.parse line = .ok cmd ∧
          (shell.dispatcher.dispatch cmd shell.state host).value.1 = .error error := by
  cases hparse : Command.parse line with
  | error e =>
    rw [executeLine_blank hparse]
    rcases (Command.parse_eq_empty_iff line).mp hparse with h | h
    · rw [runCommand_skipped h, h]
      simp
    · rw [runCommand_marker h, h]
      simp
  | ok cmd =>
    have hsolid : Command.solid line ≠ [Command.backgroundMarker] := by
      intro hsolid
      rw [(Command.parse_eq_empty_iff line).mpr (Or.inr hsolid)] at hparse
      cases hparse
    rw [executeLine_command hparse]
    cases hdispatched : (shell.dispatcher.dispatch cmd shell.state host).value.1 with
    | ok status =>
      -- the status may have the code 1 as well, but there is one
      rw [execute_ended hdispatched]
      refine iff_of_false (fun h => nomatch h.2) ?_
      rintro (h | ⟨other, error, hother, herror⟩)
      · exact hsolid h
      · obtain rfl := Except.ok.inj hother
        rw [hdispatched] at herror
        cases herror
    | error error =>
      rw [runCommand_failed hparse hdispatched, (execute_failed hdispatched).1]
      exact iff_of_true ⟨rfl, rfl⟩ (Or.inr ⟨cmd, error, rfl, hdispatched⟩)

/-- **What the code of a line tells.**  A line without a command is not dispatched and changes
nothing; it comes to 0 if it is white space, and to 1 if it has a marker and nothing else.  A
command is dispatched once: if a status comes of it, the code is the code of the status, which is
recorded; if none does, the code is 1 and the shell is left as it was, because of a word with a null
character, because no child was started, or because waiting for it failed.  So a code of 1 without a
status has one reason more than a launch that failed: the marker that stands alone. -/
theorem run_command_tells_apart (line : String) (shell : Shell ρ σ) (host : σ) :
    let ran := runCommand line shell host
    (Command.parse line = .error .empty →
      (Command.solid line = [] ∧ ran = ⟨(0, shell), [], host⟩) ∨
        (Command.solid line = [Command.backgroundMarker] ∧ ran = ⟨(1, shell), [], host⟩)) ∧
    (∀ cmd, Command.parse line = .ok cmd →
      let dispatched := shell.dispatcher.dispatch cmd shell.state host
      ran.state = dispatched.state ∧
      (∀ status, dispatched.value.1 = .ok status →
        ran.value = (status.code, { shell with
          state := dispatched.value.2.1.record status
          dispatcher := dispatched.value.2.2 })) ∧
      (∀ error, dispatched.value.1 = .error error →
        ran.value = (1, shell) ∧
          ((∃ word ∈ cmd.arguments, holdsNull word = true ∧ error = .invalidArgument word) ∨
            (∃ errno, error = .fork errno) ∨ ∃ errno, error = .wait errno))) ∧
    (ran.value.1 = 1 ∧ (executeLine line shell host).value.1 = none ↔
      Command.solid line = [Command.backgroundMarker] ∨
        ∃ cmd error, Command.parse line = .ok cmd ∧
          (shell.dispatcher.dispatch cmd shell.state host).value.1 = .error error) := by
  intro ran
  refine ⟨fun hparse => ?_, fun cmd hparse => ?_, runCommand_eq_one_iff line shell host⟩
  · rcases (Command.parse_eq_empty_iff line).mp hparse with h | h
    · exact Or.inl ⟨h, congrFun (runCommand_skipped h shell) host⟩
    · exact Or.inr ⟨h, congrFun (runCommand_marker h shell) host⟩
  · intro dispatched
    refine ⟨state_runCommand hparse, fun status hstatus => runCommand_ended hparse hstatus,
      fun error herror => ⟨runCommand_failed hparse herror, ?_⟩⟩
    exact (Dispatcher.launch_error (Dispatcher.dispatch_error herror).2).2

/-- White space of another kind than a blank, and a command that leaves with a code. -/
theorem run_command_tells_apart_exit :
    (runCommand "\t\u3000" hopeful barren = ⟨(0, hopeful), [], barren⟩) ∧
      (runCommand "exit 4" hopeful barren).value.1 = 4 ∧
      (runCommand "exit 4" hopeful barren).value.2.state.lastStatus = some (.builtin 4) := by
  obtain ⟨hempty, -, -⟩ := run_command_tells_apart "\t\u3000" hopeful barren
  obtain ⟨-, hcommand, -⟩ := run_command_tells_apart "exit 4" hopeful barren
  obtain ⟨-, hended, -⟩ := hcommand ⟨"exit 4", "exit", ["4"], false⟩ (by cbv)
  refine ⟨?_, ?_⟩
  · rcases hempty (by cbv) with ⟨-, hran⟩ | ⟨hsolid, -⟩
    · exact hran
    · exact absurd hsolid (by decide)
  · rw [hended (.builtin 4) (by rfl)]
    exact ⟨rfl, rfl⟩

/-- A marker that stands alone is no command, so nothing is launched for it; it comes to the code of
a launch that failed. -/
theorem lone_marker_counts_as_failure :
    Command.parse "&" = .error .empty ∧
      runCommand "&" hopeful barren = ⟨(1, hopeful), [], barren⟩ := by
  refine ⟨by cbv, ?_⟩
  rw [runCommand_marker (by decide)]
  rfl

end Shell

end JobShell
