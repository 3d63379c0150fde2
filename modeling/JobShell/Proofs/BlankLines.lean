import JobShell.Proofs.Errands
import JobShell.Proofs.Reads
import JobShell.Proofs.Rendering
import JobShell.Proofs.Simulation
import JobShell.Reader.Editor
import JobShell.Reader.Scripted

/-!
# Blank lines are not seen

A blank line is one that has no command (`Command.blank_iff`).  A round that reads one sends out no
errand and leaves the gist of the shell as it was, whatever jobs it tells of.  So a session whose
input has blank lines more, and whose commands are answered alike, sends out the same errands and
comes to the same end (`Shell.blank_lines_not_seen`).  The induction is on how the blank lines were
put in: a blank line is a round of one session alone, any other line a round of both.
-/

namespace JobShell

open Text (Blanks isBlank)

namespace Command

def Blank (line : String) : Prop := parse line = .error .empty

theorem blank_iff_words {line : String} : Blank line ↔ Blanks (unmarked line.toList).1 := by
  unfold Blank parse
  generalize unmarked line.toList = marked
  obtain ⟨before, isBackground⟩ := marked
  constructor
  · intro h
    cases hwords : Text.words before with
    | nil => exact Text.blanks_of_words hwords
    | cons name args =>
      simp only [hwords] at h
      cases h
  · intro h
    simp only [Text.words_of_blanks h]

/-- Blank is a line of white space, with one marker in it or none. -/
theorem blank_iff {line : String} : Blank line ↔ Blanks line.toList ∨
    ∃ before after, Blanks before ∧ Blanks after ∧
      line.toList = before ++ backgroundMarker :: after := by
  rw [blank_iff_words]
  constructor
  · intro h
    cases hmarker : beforeMarker? line.toList with
    | some before =>
      obtain ⟨after, hafter, hline⟩ := beforeMarker?_eq_some_iff.mp hmarker
      rw [hline, unmarked_marked before hafter] at h
      exact Or.inr ⟨before, after, h, hafter, hline⟩
    | none =>
      unfold unmarked at h
      rw [hmarker] at h
      exact Or.inl h
  · rintro (h | ⟨before, after, hbefore, hafter, hline⟩)
    · unfold unmarked
      cases hmarker : beforeMarker? line.toList with
      | some before =>
        obtain ⟨after, -, hline⟩ := beforeMarker?_eq_some_iff.mp hmarker
        intro c hc
        exact h c (by rw [hline]; exact List.mem_append_left _ hc)
      | none => exact h
    · rw [hline, unmarked_marked before hafter]
      exact hbefore

end Command

/-- An interrupted line is read as a blank one. -/
theorem Editor.blank_of_interrupted {prompt : String} {editor : Editor}
    (h : (editor.readLine prompt).1 = .error .interrupted) :
    ∃ line, (editor.read prompt).answer = .line line ∧ Command.Blank line := by
  have hanswer : (editor.read prompt).answer = answer (editor.readLine prompt).1 := rfl
  rw [hanswer, h]
  exact ⟨"", rfl, Session.parse_empty⟩

/-! ## The lines that a reader gives -/

/-- The reader gives these answers in turn, whatever it is asked with, and is closed behind them. -/
def LineReader.Gives {ρ : Type} [LineReader ρ] : List ReadAnswer → ρ → Prop
  | [], reader => ∀ prompt, (read prompt reader).answer = .closed
  | answer :: rest, reader => ∀ prompt,
    (read prompt reader).answer = answer ∧ Gives rest (read prompt reader).rest

/-- Any answers are given by some reader. -/
theorem ScriptedReader.gives (answers : List ReadAnswer) :
    LineReader.Gives answers ({ answers } : ScriptedReader) := by
  induction answers with
  | nil => exact fun _ => rfl
  | cons answer rest ih => exact fun _ => ⟨rfl, ih⟩

/-- The second list is the first with blank lines put in. -/
inductive Padded : List ReadAnswer → List ReadAnswer → Prop
  | nil : Padded [] []
  | keep (answer : ReadAnswer) {answers padded : List ReadAnswer} (h : Padded answers padded) :
      Padded (answer :: answers) (answer :: padded)
  | blank {line : String} (hline : Command.Blank line) {answers padded : List ReadAnswer}
      (h : Padded answers padded) : Padded answers (.line line :: padded)

/-- Errand by errand, what was sent out on the same occasion was answered alike. -/
def AnsweredAlike (errands others : List Errand) : Prop :=
  ∀ pair ∈ errands.zip others, pair.2.occasion = pair.1.occasion → pair.2.answer = pair.1.answer

theorem AnsweredAlike.refl (errands : List Errand) : AnsweredAlike errands errands := by
  intro pair hpair _
  obtain ⟨i, hi, rfl⟩ := List.mem_iff_getElem.mp hpair
  rw [List.getElem_zip]

theorem AnsweredAlike.of_append {first later first' later' : List Errand}
    (h : AnsweredAlike (first ++ later) (first' ++ later'))
    (hlength : first.length = first'.length) :
    AnsweredAlike first first' ∧ AnsweredAlike later later' := by
  unfold AnsweredAlike at h
  rw [List.zip_append hlength] at h
  exact ⟨fun pair hpair => h pair (List.mem_append_left _ hpair),
    fun pair hpair => h pair (List.mem_append_right _ hpair)⟩

namespace Shell

variable {ρ ρ' σ τ : Type} [Host σ] [Host τ] [LineReader ρ] [LineReader ρ']

/-- Both runs send out the same errands, echo the same, and come to the same end. -/
structure Agrees (shell : Shell ρ σ) (host : σ) (twin : Shell ρ' τ) (other : τ) : Prop where
  errands : twin.errands other = shell.errands host
  result : (twin.run other).value.1 = (shell.run host).value.1
  state : (twin.run other).value.2.state = (shell.run host).value.2.state
  echoes : twin.echoes other = shell.echoes host

section

variable {shell : Shell ρ σ} {host : σ} {twin : Shell ρ' τ} {other : τ}

/-- Two shells that are to end agree. -/
theorem Agrees.exit (hgist : twin.gist = shell.gist) (hexit : shell.state.shouldExit = true) :
    shell.Agrees host twin other := by
  have hstate : twin.state = shell.state := congrArg Gist.state hgist
  have hexit' : twin.state.shouldExit = true := by rw [hstate, hexit]
  obtain ⟨herrands, hechoes⟩ := errands_of_shouldExit hexit host
  obtain ⟨herrands', hechoes'⟩ := errands_of_shouldExit hexit' other
  refine ⟨herrands'.trans herrands.symm, ?_, ?_, hechoes'.trans hechoes.symm⟩
  · rw [run_of_shouldExit hexit, run_of_shouldExit hexit']
    exact congrArg (fun state => Except.ok state.exitCode) hstate
  · rw [run_of_shouldExit hexit, run_of_shouldExit hexit']
    exact hstate

/-- A round that reads a blank line goes on with the same gist and sends out nothing. -/
theorem step_blank {line : String} (hline : (twin.reading other).answer = .line line)
    (hblank : Command.Blank line) : (step twin other).value.1 = .ok () ∧
      (step twin other).value.2.gist = twin.gist ∧ twin.roundErrands other = [] := by
  have horders : twin.gist.orders (.line line) = [] := by
    show (Command.parse line).toOption.toList = []
    rw [show Command.parse line = _ from hblank]
    rfl
  have herrands : twin.roundErrands other = [] := by
    rw [roundErrands_eq, hline, horders]
    rfl
  have hfollows := step_follows twin other
  rw [hline, herrands] at hfollows
  exact ⟨hfollows.result, hfollows.gist, herrands⟩

theorem Agrees.blank {line : String} (hgo : twin.state.shouldExit = false)
    (hline : (twin.reading other).answer = .line line) (hblank : Command.Blank line)
    (h : shell.Agrees host (step twin other).value.2 (step twin other).state) :
    shell.Agrees host twin other := by
  obtain ⟨hok, -, hnone⟩ := step_blank hline hblank
  obtain ⟨herrands, hechoes⟩ := errands_of_step_ok hgo hok
  rw [hnone, List.nil_append] at herrands
  rw [hline] at hechoes
  have hrun := run_of_step_ok hgo hok
  refine ⟨herrands.trans h.errands, ?_, ?_, hechoes.trans h.echoes⟩
  · rw [hrun]
    exact h.result
  · rw [hrun]
    exact h.state

/-- Rounds of shells with one gist that read the same send out the same errands, if these are
answered alike. -/
theorem roundErrands_congr (hgist : twin.gist = shell.gist)
    (hanswer : (twin.reading other).answer = (shell.reading host).answer)
    (halike : AnsweredAlike (shell.roundErrands host) (twin.roundErrands other)) :
    twin.roundErrands other = shell.roundErrands host := by
  rw [roundErrands_eq shell, roundErrands_eq twin, hgist, hanswer] at halike ⊢
  unfold AnsweredAlike at halike
  rw [List.zip_map'] at halike
  refine List.map_congr_left fun cmd hcmd => ?_
  have hpair := halike _ (List.mem_map_of_mem hcmd) rfl
  exact congrArg (shell.gist.errand cmd) hpair

/-- Such rounds leave one gist. -/
theorem gist_step_congr (hgist : twin.gist = shell.gist)
    (hanswer : (twin.reading other).answer = (shell.reading host).answer)
    (herrands : twin.roundErrands other = shell.roundErrands host) :
    (step twin other).value.2.gist = (step shell host).value.2.gist := by
  rw [(step_follows shell host).gist, (step_follows twin other).gist, hgist, hanswer, herrands]

theorem length_roundErrands (shell : Shell ρ σ) (host : σ) : (shell.roundErrands host).length =
    (shell.gist.orders (shell.reading host).answer).length := by
  rw [roundErrands_eq, List.length_map]

/-- Shells with one gist that read the same agree if what they go on with agrees. -/
theorem Agrees.round (hgist : twin.gist = shell.gist) (hgo : shell.state.shouldExit = false)
    (hanswer : (twin.reading other).answer = (shell.reading host).answer)
    (halike : AnsweredAlike (shell.errands host) (twin.errands other))
    (hnext : (step shell host).value.1 = .ok () →
      (step twin other).value.2.gist = (step shell host).value.2.gist →
      AnsweredAlike ((step shell host).value.2.errands (step shell host).state)
        ((step twin other).value.2.errands (step twin other).state) →
      (step shell host).value.2.Agrees (step shell host).state (step twin other).value.2
        (step twin other).state) :
    shell.Agrees host twin other := by
  have hgo' : twin.state.shouldExit = false := by
    rw [show twin.state = shell.state from congrArg Gist.state hgist, hgo]
  have hlength : (shell.roundErrands host).length = (twin.roundErrands other).length := by
    rw [length_roundErrands, length_roundErrands, hgist, hanswer]
  have hecho : twin.gist.echo (twin.reading other).answer =
      shell.gist.echo (shell.reading host).answer := by rw [hgist, hanswer]
  have hresult : (step twin other).value.1 = (step shell host).value.1 := by
    rw [(step_follows shell host).result, (step_follows twin other).result, hgist, hanswer]
  cases hstep : (step shell host).value.1 with
  | error error =>
    rw [hstep] at hresult
    obtain ⟨hrounds, hechoes⟩ := errands_of_step_error hgo hstep
    obtain ⟨hrounds', hechoes'⟩ := errands_of_step_error hgo' hresult
    rw [hrounds, hrounds'] at halike
    have herrands := roundErrands_congr hgist hanswer halike
    have hleft := gist_step_congr hgist hanswer herrands
    have hrun := run_of_step_error hgo hstep
    have hrun' := run_of_step_error hgo' hresult
    refine ⟨by rw [hrounds, hrounds', herrands], ?_, ?_, by rw [hechoes, hechoes', hecho]⟩
    · rw [hrun, hrun']
    · rw [hrun, hrun']
      exact congrArg Gist.state hleft
  | ok _ =>
    rw [hstep] at hresult
    obtain ⟨hrounds, hechoes⟩ := errands_of_step_ok hgo hstep
    obtain ⟨hrounds', hechoes'⟩ := errands_of_step_ok hgo' hresult
    rw [hrounds, hrounds'] at halike
    obtain ⟨hfirst, hlater⟩ := halike.of_append hlength
    have herrands := roundErrands_congr hgist hanswer hfirst
    have hagrees := hnext hstep (gist_step_congr hgist hanswer herrands) hlater
    have hrun := run_of_step_ok hgo hstep
    have hrun' := run_of_step_ok hgo' hresult
    refine ⟨by rw [hrounds, hrounds', herrands, hagrees.errands], ?_, ?_,
      by rw [hechoes, hechoes', hecho, hagrees.echoes]⟩
    · rw [hrun, hrun']
      exact hagrees.result
    · rw [hrun, hrun']
      exact hagrees.state

end

/-- Blank lines that are put in change nothing. -/
theorem agrees_of_padded {answers padded : List ReadAnswer} (h : Padded answers padded)
    {shell : Shell ρ σ} {host : σ} {twin : Shell ρ' τ} {other : τ}
    (hreader : LineReader.Gives answers shell.reader)
    (hreader' : LineReader.Gives padded twin.reader)
    (hgist : twin.gist = shell.gist)
    (halike : AnsweredAlike (shell.errands host) (twin.errands other)) :
    shell.Agrees host twin other := by
  induction h generalizing shell host twin other with
  | nil =>
    have hclosed : (shell.reading host).answer = .closed := hreader _
    have hclosed' : (twin.reading other).answer = .closed := hreader' _
    cases hexit : shell.state.shouldExit with
    | true => exact Agrees.exit hgist hexit
    | false =>
      refine Agrees.round hgist hexit (hclosed'.trans hclosed.symm) halike fun hok hleft _ => ?_
      -- behind the end of the input no round is made
      refine Agrees.exit hleft ?_
      rw [step_eq, hclosed] at hok ⊢
      exact shouldExit_respond _ _ (fun text h => by cases h) hok
  | keep answer h ih =>
    obtain ⟨hanswer, hrest⟩ := hreader (currentPrompt (reportFinishedJobs shell host).state)
    obtain ⟨hanswer', hrest'⟩ := hreader' (currentPrompt (reportFinishedJobs twin other).state)
    cases hexit : shell.state.shouldExit with
    | true => exact Agrees.exit hgist hexit
    | false =>
      refine Agrees.round hgist hexit (hanswer'.trans hanswer.symm) halike
        fun _ hleft hlater => ?_
      exact ih (by rw [reader_step]; exact hrest) (by rw [reader_step]; exact hrest') hleft hlater
  | blank hline h ih =>
    obtain ⟨hanswer, hrest⟩ := hreader' (currentPrompt (reportFinishedJobs twin other).state)
    cases hexit : shell.state.shouldExit with
    | true => exact Agrees.exit hgist hexit
    | false =>
      have hgo : twin.state.shouldExit = false := by
        rw [show twin.state = shell.state from congrArg Gist.state hgist, hexit]
      obtain ⟨hok, hleft, hnone⟩ := step_blank hanswer hline
      refine Agrees.blank hgo hanswer hline (ih hreader (by rw [reader_step]; exact hrest)
        (hleft.trans hgist) ?_)
      rwa [(errands_of_step_ok hgo hok).1, hnone, List.nil_append] at halike

/-- **Blank lines are not seen.**  Two sessions, of which one is given blank lines besides those of
the other, whose shells are alike and whose commands are answered alike as long as they are
dispatched on the same occasions.  Both dispatch the same commands in the same order, enter their
jobs under the same numbers, leave the same state, return the same, and, if no built-in echoes, echo
the same.  Blank is a line of white space, with one marker in it or none, and so is one that was
interrupted. -/
theorem blank_lines_not_seen {answers padded : List ReadAnswer} (hpadded : Padded answers padded)
    {shell : Shell ρ σ} {host : σ} {twin : Shell ρ' τ} {other : τ}
    (hreader : LineReader.Gives answers shell.reader)
    (hreader' : LineReader.Gives padded twin.reader)
    (hgist : twin.gist = shell.gist)
    (halike : AnsweredAlike (shell.errands host) (twin.errands other)) :
    (∀ line, Command.Blank line ↔ Blanks line.toList ∨ ∃ before after, Blanks before ∧
      Blanks after ∧ line.toList = before ++ Command.backgroundMarker :: after) ∧
    (∀ (prompt : String) (editor : Editor), (editor.readLine prompt).1 = .error .interrupted →
      ∃ line, (editor.read prompt).answer = .line line ∧ Command.Blank line) ∧
    commandsOf (shell.marks host) = (shell.errands host).map (·.occasion.cmd) ∧
    commandsOf (twin.marks other) = commandsOf (shell.marks host) ∧
    twin.errands other = shell.errands host ∧
    (twin.run other).value.2.state = (shell.run host).value.2.state ∧
    (twin.run other).value.1 = (shell.run host).value.1 ∧
    (shell.dispatcher.builtins.Silent → twin.dispatcher.builtins.Silent →
      echoed (twin.run other).written = echoed (shell.run host).written) := by
  have hagrees := agrees_of_padded hpadded hreader hreader' hgist halike
  refine ⟨fun _ => Command.blank_iff, fun _ _ => Editor.blank_of_interrupted,
    commandsOf_marks shell host, ?_, hagrees.errands, hagrees.state, hagrees.result,
    fun hsilent hsilent' => ?_⟩
  · rw [commandsOf_marks, commandsOf_marks, hagrees.errands]
  · rw [echoed_run host hsilent, echoed_run other hsilent', hagrees.echoes]

/-- One job and the end of the input. -/
def scripted : Shell ScriptedReader Simulation :=
  Shell.new {} { answers := [.line "sleep 1 &"] }

/-- The same typed, after an interrupted line and with a marker alone behind it. -/
def typed : Shell Editor Simulation := Shell.new {} (.typed "\x03sleep 1 &\r & \r".toList)

/-- What either sends out. -/
def sent : List Errand :=
  [⟨⟨Simulation.sleeper, {}, none⟩, .launched (.detached ⟨7⟩), [1]⟩,
    ⟨⟨exitOrder, { lastStatus := some (.detached ⟨7⟩) }, some 0⟩, .replied ⟨0, [.exit]⟩, []⟩]

theorem blank_lines_not_seen_interrupted :
    (typed.errands Simulation.single).map (·.ids) = [[1], []] ∧
      commandsOf (typed.marks Simulation.single) =
        commandsOf (scripted.marks Simulation.single) ∧
      (typed.run Simulation.single).value.1 = (scripted.run Simulation.single).value.1 ∧
      echoed (typed.run Simulation.single).written =
        echoed (scripted.run Simulation.single).written := by
  have hsent : scripted.errands Simulation.single = sent := by decide +kernel
  have hsent' : typed.errands Simulation.single = sent := by decide +kernel
  have hpadded : Padded [.line "sleep 1 &"] [.line "", .line "sleep 1 &", .line " & "] :=
    .blank Session.parse_empty (.keep _ (.blank (by cbv : Command.parse " & " = _) .nil))
  have hreader : LineReader.Gives [.line "sleep 1 &"] scripted.reader := ScriptedReader.gives _
  have hreader' : LineReader.Gives [.line "", .line "sleep 1 &", .line " & "] typed.reader :=
    fun _ => ⟨by rfl, fun _ => ⟨by rfl, fun _ => ⟨by rfl, fun _ => by rfl⟩⟩⟩
  have halike : AnsweredAlike (scripted.errands Simulation.single)
      (typed.errands Simulation.single) := by
    rw [hsent, hsent']
    exact AnsweredAlike.refl sent
  have hsilent : (Builtins.defaults : Builtins Simulation).Silent :=
    fun name registration hfound calls cmd state =>
      Act.Aside.writes (Builtins.aside_defaults name registration hfound calls cmd state)
        Entry.echoBytes_of_isAside
  obtain ⟨-, -, -, hcommands, -, -, hresult, hecho⟩ :=
    blank_lines_not_seen hpadded hreader hreader' rfl halike
  exact ⟨by rw [hsent']; rfl, hcommands, hresult, hecho hsilent hsilent⟩

end Shell

end JobShell
