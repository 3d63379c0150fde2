import JobShell.Proofs.Marks
import JobShell.Proofs.Scan
import JobShell.Proofs.Simulation
import JobShell.Proofs.Written

/-!
# The end of the input is an `exit`

A round that meets the end of the input is set beside a round of the same shell that reads the line
`exit`.  Both tell of the finished jobs and prompt alike; what they do then is one dispatch of the
same command, in shells that differ in nothing but their reader and where they echo
(`execute_moved`).  Behind it the round that met the end requests an exit, whatever the command did.
Where nothing is registered as `exit`, the end of the input dispatches no command at all.
-/

namespace JobShell

namespace Recorded

variable {σ : Type} {before middle after : Recorded σ}

theorem launches_eq_nil (h : Asks (fun question => question.launch? = none) before after) :
    launches before after = [] :=
  List.filterMap_eq_nil_iff.mpr h.of_mem_since

end Recorded

namespace JobTable

variable {σ : Type} [Host σ]

/-- A poll starts no child. -/
theorem asks_poll_launch? (table : JobTable) (host : Recorded σ) :
    Recorded.Asks (fun question => question.launch? = none) host (table.poll host).state := by
  have hreap : ∀ host : Recorded σ,
      Recorded.Asks (fun question => question.launch? = none) host (table.reap host).state := by
    intro host
    refine ⟨_, record_reap table host, fun question hmem => ?_⟩
    obtain ⟨asked, -, rfl⟩ := List.mem_map.mp hmem
    rfl
  obtain ⟨host', hhost, hpoll⟩ := poll_cases table host
  have hnews : Recorded.Asks (fun question => question.launch? = none) host host' := by
    rcases hhost with rfl | rfl
    · exact Recorded.Asks.refl _
    · exact Recorded.Asks.single (Recorded.record_takeChildNews host) rfl
  rcases hpoll with ⟨-, hstate⟩ | ⟨-, hstate⟩
  · rw [hstate]
    exact hnews
  · rw [hstate]
    exact hnews.trans (hreap host')

end JobTable

/-- What is written whole is taken whole. -/
theorem Sink.taken_of_whole {sink : Sink} {bytes : Bytes} (h : (sink.write bytes).whole = true) :
    (sink.write bytes).taken = bytes := by
  unfold Sink.write at h ⊢
  cases hroom : sink.room with
  | none => rfl
  | some n =>
    rw [hroom] at h
    exact List.take_of_length_le (by simpa using h)

namespace Shell

variable {ρ ρ' σ ω : Type} [Host σ]

/-! ## Shells that differ in their reader and in where they echo -/

/-- The shell over another reader, with its echo elsewhere. -/
def moved (shell : Shell ρ σ ω) (reader : ρ') (out : ω) : Shell ρ' σ ω :=
  { reader, out, state := shell.state, dispatcher := shell.dispatcher, flags := shell.flags }

omit [Host σ] in
@[simp] theorem moved_moved {ρ'' : Type} (shell : Shell ρ σ ω) (reader : ρ') (reader' : ρ'')
    (out out' : ω) : (shell.moved reader out).moved reader' out' = shell.moved reader' out' := rfl

theorem reportFinishedJobs_moved (shell : Shell ρ σ ω) (reader : ρ') (out : ω) (host : σ) :
    reportFinishedJobs (shell.moved reader out) host =
      ⟨(reportFinishedJobs shell host).value.moved reader out,
        (reportFinishedJobs shell host).written, (reportFinishedJobs shell host).state⟩ := by
  have hquiet : (shell.moved reader out).isQuiet = shell.isQuiet := rfl
  unfold reportFinishedJobs
  rw [hquiet]
  cases shell.isQuiet <;> rfl

theorem execute_moved (cmd : Command) (shell : Shell ρ σ ω) (reader : ρ') (out : ω) (host : σ) :
    execute cmd (shell.moved reader out) host =
      ⟨((execute cmd shell host).value.1, (execute cmd shell host).value.2.moved reader out),
        (execute cmd shell host).written, (execute cmd shell host).state⟩ := by
  have hdispatch : (shell.moved reader out).dispatcher.dispatch cmd
      (shell.moved reader out).state = shell.dispatcher.dispatch cmd shell.state := rfl
  unfold execute
  rw [hdispatch]
  simp only [Act.bind_apply]
  cases (shell.dispatcher.dispatch cmd shell.state host).value.1 <;> rfl

/-! ## The two answers -/

theorem executeLine_command {line : String} {cmd : Command} (h : Command.parse line = .ok cmd) :
    (executeLine line : Shell ρ σ ω → Act σ _) = execute cmd := by
  funext shell
  unfold executeLine
  rw [h]

theorem executeLine_blank {line : String} (h : Command.parse line = .error .empty)
    (shell : Shell ρ σ ω) : executeLine line shell = pure (none, shell) := by
  unfold executeLine
  rw [h]

/-- The line `exit` is executed. -/
theorem respond_exit (shell : Shell ρ σ) (reader : ρ') (out : Sink) (host : σ) :
    let ran := execute exitOrder shell host
    respond (.line exitCommand) (shell.moved reader out) host =
      ⟨(.ok (), ran.value.2.moved reader out), ran.written, ran.state⟩ := by
  have hempty : exitCommand.isEmpty = false := by decide
  simp only [respond, hempty, Bool.false_eq_true, if_false, executeLine_command parse_exitCommand,
    Act.bind_apply, Act.pure_apply, List.append_nil, execute_moved]

omit [Host σ] in
/-- An echo that is written is written whole. -/
theorem echoExit_of_whole {shell : Shell ρ σ} (hwhole : (shell.out.write farewell).whole = true)
    (host : σ) : echoExit shell host =
      ⟨(.ok (), { shell with out := (shell.out.write farewell).sink }), [.echo farewell],
        host⟩ := by
  have htaken : (shell.out.write farewell).taken = farewell := Sink.taken_of_whole hwhole
  simp only [echoExit_sink, hwhole, htaken, if_true]

section

variable {shell : Shell ρ σ} {reader : ρ'} {out : Sink}

theorem respond_closed_eq (hwhole : (out.write farewell).whole = true) (host : σ) :
    let left := leave (shell.moved reader (out.write farewell).sink) host
    respond .closed (shell.moved reader out) host =
      ⟨(.ok (), left.value), .echo farewell :: left.written, left.state⟩ := by
  have hechoed : echoExit (shell.moved reader out) host =
      ⟨(.ok (), shell.moved reader (out.write farewell).sink), [.echo farewell], host⟩ :=
    echoExit_of_whole hwhole host
  simp only [respond, Act.bind_apply, hechoed, leaveAfter, Act.pure_apply, List.append_nil,
    List.singleton_append]

/-- The end of the input is echoed; then, if something is registered as `exit`, it is executed as
the line is, and an exit is requested. -/
theorem respond_closed (hwhole : (out.write farewell).whole = true)
    (hexit : shell.dispatcher.builtins.isBuiltin exitCommand = true) (host : σ) :
    let ran := execute exitOrder shell host
    respond .closed (shell.moved reader out) host =
      ⟨(.ok (), (ran.value.2.moved reader (out.write farewell).sink).requestExit),
        .echo farewell :: ran.written, ran.state⟩ := by
  have hbuiltin : (shell.moved reader (out.write farewell).sink).dispatcher.builtins.isBuiltin
      exitCommand = true := hexit
  simp only [respond_closed_eq hwhole, leave, hbuiltin, if_true,
    executeLine_command parse_exitCommand, Act.bind_apply, Act.pure_apply, List.append_nil,
    execute_moved]

/-- Where nothing is registered as `exit` no more is done. -/
theorem respond_closed_of_not_isBuiltin (hwhole : (out.write farewell).whole = true)
    (hexit : shell.dispatcher.builtins.isBuiltin exitCommand = false) (host : σ) :
    respond .closed (shell.moved reader out) host =
      ⟨(.ok (), (shell.moved reader (out.write farewell).sink).requestExit), [.echo farewell],
        host⟩ := by
  have hbuiltin : (shell.moved reader (out.write farewell).sink).dispatcher.builtins.isBuiltin
      exitCommand = false := hexit
  simp only [respond_closed_eq hwhole, leave, hbuiltin, Bool.false_eq_true, if_false,
    Act.pure_apply]

end

/-! ## The two rounds -/

theorem out_reportFinishedJobs (shell : Shell ρ σ ω) (host : σ) :
    (reportFinishedJobs shell host).value.out = shell.out :=
  congrArg (·.out) (value_reportFinishedJobs shell host)

theorem state_reportFinishedJobs (shell : Shell ρ σ ω) (host : σ) :
    (reportFinishedJobs shell host).value.state = shell.state :=
  congrArg (·.state) (value_reportFinishedJobs shell host)

theorem builtins_reportFinishedJobs (shell : Shell ρ σ ω) (host : σ) :
    (reportFinishedJobs shell host).value.dispatcher.builtins = shell.dispatcher.builtins :=
  congrArg (·.dispatcher.builtins) (value_reportFinishedJobs shell host)

section

variable [LineReader ρ] [LineReader ρ'] {shell : Shell ρ σ} {reader : ρ'} {host : σ}

omit [LineReader ρ'] in
/-- A round tells of the finished jobs, prompts, and does what the answer demands. -/
theorem step_eq [Writer ω] (shell : Shell ρ σ ω) (host : σ) :
    let reported := reportFinishedJobs shell host
    let reading := shell.reading host
    let answered := respond reading.answer (reported.value.moved reading.rest shell.out)
      reported.state
    step shell host = ⟨answered.value,
      reported.written ++ .prompt reading.shown :: answered.written, answered.state⟩ := by
  simp only [step, Act.bind_apply, readLine_reportFinishedJobs, List.singleton_append, moved]
  rw [← out_reportFinishedJobs shell host]

omit [LineReader ρ] in
/-- The round that reads the line `exit`. -/
theorem step_exit
    (hline : ((shell.moved reader shell.out).reading host).answer = .line exitCommand) :
    let reported := reportFinishedJobs shell host
    let reading := (shell.moved reader shell.out).reading host
    let ran := execute exitOrder reported.value reported.state
    step (shell.moved reader shell.out) host =
      ⟨(.ok (), ran.value.2.moved reading.rest shell.out),
        reported.written ++ .prompt reading.shown :: ran.written, ran.state⟩ := by
  rw [step_eq, hline, reportFinishedJobs_moved, moved_moved, respond_exit]
  rfl

omit [LineReader ρ'] in
/-- The round that meets the end of the input, where something is registered as `exit`. -/
theorem step_closed (hclosed : (shell.reading host).answer = .closed)
    (hwhole : (shell.out.write farewell).whole = true)
    (hexit : shell.dispatcher.builtins.isBuiltin exitCommand = true) :
    let reported := reportFinishedJobs shell host
    let reading := shell.reading host
    let ran := execute exitOrder reported.value reported.state
    step shell host =
      ⟨(.ok (), (ran.value.2.moved reading.rest (shell.out.write farewell).sink).requestExit),
        reported.written ++ .prompt reading.shown :: .echo farewell :: ran.written,
        ran.state⟩ := by
  rw [← builtins_reportFinishedJobs shell host] at hexit
  rw [step_eq, hclosed, respond_closed hwhole hexit]

omit [LineReader ρ'] in
/-- The round that meets the end of the input, where nothing is registered as `exit`. -/
theorem step_closed_of_not_isBuiltin (hclosed : (shell.reading host).answer = .closed)
    (hwhole : (shell.out.write farewell).whole = true)
    (hexit : shell.dispatcher.builtins.isBuiltin exitCommand = false) :
    let reported := reportFinishedJobs shell host
    let reading := shell.reading host
    step shell host =
      ⟨(.ok (), (reported.value.moved reading.rest (shell.out.write farewell).sink).requestExit),
        reported.written ++ [.prompt reading.shown, .echo farewell], reported.state⟩ := by
  rw [← builtins_reportFinishedJobs shell host] at hexit
  rw [step_eq, hclosed, respond_closed_of_not_isBuiltin hwhole hexit]

end

/-! ## Executing a command -/

/-- A built-in is called once, and its status recorded. -/
theorem execute_called {cmd : Command} {shell : Shell ρ σ ω} {registration : Registration σ}
    (hfound : shell.dispatcher.builtins.get? cmd.name = some registration) (host : σ) :
    let reply := registration.handler registration.calls cmd shell.state host
    (execute cmd shell host).value.2 = { shell with
      state := (shell.state.applyAll reply.value.requests).record (.builtin reply.value.code)
      dispatcher := { shell.dispatcher with
        builtins := shell.dispatcher.builtins.put cmd.name
          { registration with calls := registration.calls + 1 } } } := by
  obtain ⟨reply, hreply, hvalue, -⟩ := Dispatcher.dispatch_called hfound shell.state host
  unfold execute
  simp only [Act.bind_apply, hvalue]
  subst hreply
  rfl

/-- A command that is no built-in is launched, and its status recorded if it has one. -/
theorem execute_launched {cmd : Command} {shell : Shell ρ σ ω}
    (hfound : shell.dispatcher.builtins.get? cmd.name = none) (host : σ) :
    let launched := (Dispatcher.launch cmd shell.dispatcher host).value
    (execute cmd shell host).value.2 = { shell with
      state := match launched.1 with
        | .ok status => shell.state.record status
        | .error _ => shell.state
      dispatcher := launched.2 } := by
  intro launched
  obtain ⟨hvalue, -⟩ := Dispatcher.dispatch_launched hfound shell.state host
  unfold execute
  simp only [Act.bind_apply, hvalue]
  show (conclude cmd.name launched.1 _ _).value.2 = _
  cases launched.1 <;> rfl

/-- Where nothing is registered as `exit`, executing it writes aside. -/
theorem aside_execute_exit {shell : Shell ρ σ}
    (hfound : shell.dispatcher.builtins.get? exitCommand = none) :
    Act.Aside (execute exitOrder shell) := by
  have hname : shell.dispatcher.builtins.get? exitOrder.name = none := hfound
  exact (Dispatcher.aside_dispatch_launched hname shell.state).bind fun _ => aside_conclude _ _ _

/-! ## The end of the input -/

section

variable [LineReader ρ] [LineReader ρ'] {shell : Shell ρ σ} {reader : ρ'} {host : σ}

omit [LineReader ρ'] in
theorem marks_step_closed (hclosed : (shell.reading host).answer = .closed)
    (hwhole : (shell.out.write farewell).whole = true) : (markedStep shell).marks host =
      .read .closed ::
        if shell.dispatcher.builtins.isBuiltin exitCommand then [.dispatched exitOrder]
        else [] := by
  rw [marks_markedStep, hclosed]
  simp only [orders, hwhole, Bool.true_and]
  split <;> rfl

omit [LineReader ρ'] in
theorem marks_step_exit (hline : (shell.reading host).answer = .line exitCommand) :
    (markedStep shell).marks host = [.read (.line exitCommand), .dispatched exitOrder] := by
  rw [marks_markedStep, hline]
  simp only [orders, parse_exitCommand]
  rfl

omit [LineReader ρ'] in
/-- A round that meets the end of the input requests an exit, and its echo is written. -/
theorem step_closed_ok (hclosed : (shell.reading host).answer = .closed)
    (hwhole : (shell.out.write farewell).whole = true) :
    (shell.step host).value.1 = .ok () ∧ (shell.step host).value.2.state.shouldExit = true ∧
      (shell.step host).value.2.out = (shell.out.write farewell).sink := by
  cases hexit : shell.dispatcher.builtins.isBuiltin exitCommand with
  | true =>
    rw [step_closed hclosed hwhole hexit]
    exact ⟨rfl, rfl, rfl⟩
  | false =>
    rw [step_closed_of_not_isBuiltin hclosed hwhole hexit]
    exact ⟨rfl, rfl, rfl⟩

/-- What is registered as `exit` is called alike by both rounds. -/
theorem step_closed_called {registration : Registration σ}
    (hclosed : (shell.reading host).answer = .closed)
    (hline : ((shell.moved reader shell.out).reading host).answer = .line exitCommand)
    (hshown : ((shell.moved reader shell.out).reading host).shown = (shell.reading host).shown)
    (hwhole : (shell.out.write farewell).whole = true)
    (hfound : shell.dispatcher.builtins.get? exitCommand = some registration) :
    let ended := shell.step host
    let typed := (shell.moved reader shell.out).step host
    let reply := registration.handler registration.calls exitOrder shell.state
      (reportFinishedJobs shell host).state
    typed.value.2.state =
        (shell.state.applyAll reply.value.requests).record (.builtin reply.value.code) ∧
      ended.value.2.state = typed.value.2.state.requestExit ∧
      ended.value.2.dispatcher = typed.value.2.dispatcher ∧
      ended.value.2.dispatcher.builtins.get? exitCommand =
        some { registration with calls := registration.calls + 1 } ∧
      ended.state = typed.state ∧
      ∃ before after, typed.written = before ++ after ∧
        ended.written = before ++ .echo farewell :: after := by
  intro ended typed reply
  have htyped : typed = _ := step_exit hline
  have hended : ended = _ := step_closed hclosed hwhole (congrArg Option.isSome hfound)
  rw [← builtins_reportFinishedJobs shell host] at hfound
  have hname : (reportFinishedJobs shell host).value.dispatcher.builtins.get? exitOrder.name =
      some registration := hfound
  have hran := execute_called hname (reportFinishedJobs shell host).state
  have hcalled := congrArg (·.state) hran
  simp only [state_reportFinishedJobs] at hcalled
  have hregistered : ended.value.2.dispatcher.builtins.get? exitCommand =
      some { registration with calls := registration.calls + 1 } := by
    rw [hended]
    show (execute exitOrder _ _).value.2.dispatcher.builtins.get? exitCommand = _
    rw [hran]
    exact Builtins.get?_put_self _ _ _
  rw [hended] at hregistered ⊢
  rw [htyped]
  refine ⟨hcalled, rfl, rfl, hregistered, rfl,
    (reportFinishedJobs shell host).written ++ [.prompt (shell.reading host).shown], _, ?_,
    List.append_cons _ _ _⟩
  rw [hshown]
  exact List.append_cons _ _ _

/-- Where nothing is registered as `exit` the end of the input runs nothing. -/
theorem step_closed_uncalled (hclosed : (shell.reading host).answer = .closed)
    (hline : ((shell.moved reader shell.out).reading host).answer = .line exitCommand)
    (hshown : ((shell.moved reader shell.out).reading host).shown = (shell.reading host).shown)
    (hwhole : (shell.out.write farewell).whole = true)
    (hfound : shell.dispatcher.builtins.get? exitCommand = none) :
    let ended := shell.step host
    let typed := (shell.moved reader shell.out).step host
    let reported := reportFinishedJobs shell host
    ended.value.2.state = shell.state.requestExit ∧
      ended.value.2.dispatcher = reported.value.dispatcher ∧ ended.state = reported.state ∧
      ∃ before after, (∀ entry ∈ after, entry.isAside = true) ∧
        typed.written = before ++ after ∧ ended.written = before ++ [.echo farewell] := by
  intro ended typed reported
  have htyped : typed = _ := step_exit hline
  have hended : ended = _ :=
    step_closed_of_not_isBuiltin hclosed hwhole (congrArg Option.isSome hfound)
  have hstate : reported.value.state = shell.state := state_reportFinishedJobs shell host
  rw [← builtins_reportFinishedJobs shell host] at hfound
  rw [hended, htyped, ← hstate]
  refine ⟨rfl, rfl, rfl, reported.written ++ [.prompt (shell.reading host).shown], _,
    aside_execute_exit hfound reported.state, ?_, List.append_cons _ _ _⟩
  rw [hshown]
  exact List.append_cons _ _ _

end

omit [Host σ] in
theorem writeNotices_state (finished : List FinishedJob) (host : σ) :
    (writeNotices finished host).state = host := by
  induction finished with
  | nil => rfl
  | cons f rest ih => exact ih

/-- Telling of the finished jobs does nothing to the host but to reap them. -/
theorem host_reportFinishedJobs (shell : Shell ρ σ ω) (host : σ) :
    (reportFinishedJobs shell host).state = (shell.dispatcher.reapFinished host).state := by
  unfold reportFinishedJobs
  cases shell.isQuiet with
  | true => rfl
  | false => exact writeNotices_state _ _

/-- Telling of the finished jobs starts no child. -/
theorem launches_reportFinishedJobs (shell : Shell ρ (Recorded σ)) (host : Recorded σ) :
    Recorded.launches host (reportFinishedJobs shell host).state = [] := by
  rw [host_reportFinishedJobs]
  exact Recorded.launches_eq_nil (JobTable.asks_poll_launch? _ host)

/-- **End of input is an implicit `exit`.**  Two rounds of one shell, of which one meets the end of
the input and the other reads the line `exit`.  If something is registered as `exit`, both call it
once with the same command and leave the same jobs, built-ins and host, and the same state, but that
the end of the input has requested an exit; the usual `exit` does this itself.  If nothing is
registered, the end of the input dispatches nothing, starts no child, and changes nothing of the
state but to request an exit.  Beyond what the dispatch of `exit` writes, the end of the input
writes the echo of `exit` and nothing else. -/
theorem end_of_input_is_exit [LineReader ρ] [LineReader ρ'] {shell : Shell ρ (Recorded σ)}
    {reader : ρ'} {host : Recorded σ} (hclosed : (shell.reading host).answer = .closed)
    (hline : ((shell.moved reader shell.out).reading host).answer = .line exitCommand)
    (hshown : ((shell.moved reader shell.out).reading host).shown = (shell.reading host).shown)
    (hwhole : (shell.out.write farewell).whole = true) :
    let typing := shell.moved reader shell.out
    let ended := shell.step host
    let typed := typing.step host
    let reported := reportFinishedJobs shell host
    (ended.value.1 = .ok () ∧ typed.value.1 = .ok () ∧
      ended.value.2.state.shouldExit = true ∧
      ended.value.2.out = (shell.out.write farewell).sink ∧ typed.value.2.out = shell.out) ∧
    (∀ registration, shell.dispatcher.builtins.get? exitCommand = some registration →
      let reply := registration.handler registration.calls exitOrder shell.state reported.state
      (markedStep shell).marks host = [.read .closed, .dispatched exitOrder] ∧
      (markedStep typing).marks host = [.read (.line exitCommand), .dispatched exitOrder] ∧
      (typed.value.2.state =
          (shell.state.applyAll reply.value.requests).record (.builtin reply.value.code) ∧
        ended.value.2.state = typed.value.2.state.requestExit ∧
        ended.value.2.dispatcher = typed.value.2.dispatcher ∧
        ended.value.2.dispatcher.builtins.get? exitCommand =
          some { registration with calls := registration.calls + 1 } ∧
        ended.state = typed.state ∧
        ∃ before after, typed.written = before ++ after ∧
          ended.written = before ++ .echo farewell :: after) ∧
      (registration.handler = Exit.builtin → ended.value.2.state = typed.value.2.state)) ∧
    (shell.dispatcher.builtins.get? exitCommand = none →
      (markedStep shell).marks host = [.read .closed] ∧
      Recorded.launches host ended.state = [] ∧
      (ended.value.2.state = shell.state.requestExit ∧
        ended.value.2.dispatcher = reported.value.dispatcher ∧ ended.state = reported.state ∧
        ∃ before after, (∀ entry ∈ after, entry.isAside = true) ∧
          typed.written = before ++ after ∧ ended.written = before ++ [.echo farewell])) := by
  intro typing ended typed reported
  have htyped : typed = _ := step_exit hline
  have hmarks := marks_step_closed hclosed hwhole
  obtain ⟨hok, hexit, hout⟩ := step_closed_ok hclosed hwhole
  refine ⟨⟨hok, by rw [htyped], hexit, hout, by rw [htyped]; rfl⟩, fun registration hfound => ?_,
    fun hnone => ?_⟩
  · have hcalled := step_closed_called hclosed hline hshown hwhole hfound
    have hbuiltin : shell.dispatcher.builtins.isBuiltin exitCommand = true :=
      congrArg Option.isSome hfound
    refine ⟨?_, marks_step_exit hline, hcalled, fun hdefault => ?_⟩
    · rw [hmarks, hbuiltin]
      rfl
    · obtain ⟨htypedState, hendedState, -⟩ := hcalled
      rw [hendedState, htypedState, hdefault]
      rfl
  · have huncalled := step_closed_uncalled hclosed hline hshown hwhole hnone
    have hbuiltin : shell.dispatcher.builtins.isBuiltin exitCommand = false :=
      congrArg Option.isSome hnone
    refine ⟨?_, ?_, huncalled⟩
    · rw [hmarks, hbuiltin]
      rfl
    · rw [huncalled.2.2.1]
      exact launches_reportFinishedJobs shell host

/-- A new shell at the end of its input. -/
def atEnd : Shell StreamReader (Recorded Simulation) := Shell.new {} { input := [] }

/-- The same input with a line `exit` before its end. -/
def typingExit : StreamReader := { input := farewell }

/-- The usual `exit` at the end of the input. -/
theorem end_of_input_is_exit_usual :
    (atEnd.step ⟨Simulation.single, []⟩).value.2.state =
        ((atEnd.moved typingExit {}).step ⟨Simulation.single, []⟩).value.2.state ∧
      ((atEnd.step ⟨Simulation.single, []⟩).value.2.state) =
        ⟨true, 0, some (.builtin 0)⟩ := by
  have hclosed : (atEnd.reading ⟨Simulation.single, []⟩).answer = .closed := by rfl
  have hread := fun prompt => Session.read_input prompt farewell
  have htaken : (Session.taken farewell).1 = .line exitCommand := by decide +kernel
  have hline : ((atEnd.moved typingExit {}).reading ⟨Simulation.single, []⟩).answer =
      .line exitCommand := (congrArg Reading.answer (hread _)).trans htaken
  have hshown : ((atEnd.moved typingExit {}).reading ⟨Simulation.single, []⟩).shown =
      (atEnd.reading ⟨Simulation.single, []⟩).shown :=
    (congrArg Reading.shown (hread _)).trans (congrArg Reading.shown (Session.read_input _ [])).symm
  obtain ⟨-, hregistered, -⟩ := end_of_input_is_exit hclosed hline hshown rfl
  obtain ⟨-, -, ⟨htyped, hended, -⟩, husual⟩ := hregistered ⟨Exit.builtin, 0⟩ rfl
  exact ⟨husual rfl, by rw [hended, htyped]; rfl⟩

end Shell

end JobShell
