import JobShell.Proofs.ExitStatus
import JobShell.Proofs.Quiet

/-!
# What a quiet program still warns of

A quiet program writes no notice, but its option has no part in which log records are shown, so each
thing that goes wrong (`Mishap`) is warned of as in any other program: a job that is dropped, a read
that fails, a flush that fails and a command that cannot be launched.  What a quiet program remarks
is the warnings of its mishaps, each once and in order (`Program.quiet_program_warns_of_mishaps`);
it warns of nothing exactly if nothing goes wrong.
-/

namespace JobShell

/-- What a quiet shell could be taken to keep to itself. -/
inductive Remark
  | notice (finished : FinishedJob)
  | warning (record : Log.Record)
  deriving DecidableEq, Repr

def Entry.remark? : Entry → Option Remark
  | .notice finished => some (.notice finished)
  | .log _ record => if record.level = .warn then some (.warning record) else none
  | _ => none

/-- The notices and warnings among what was written. -/
def remarks (written : List Entry) : List Remark := written.filterMap Entry.remark?

theorem remarks_append (first later : List Entry) :
    remarks (first ++ later) = remarks first ++ remarks later :=
  List.filterMap_append

theorem Entry.remark?_eq_notice_iff {entry : Entry} {finished : FinishedJob} :
    entry.remark? = some (.notice finished) ↔ entry = .notice finished := by
  cases entry with
  | notice other => simp [remark?]
  | log time record =>
    simp only [remark?, reduceCtorEq, iff_false]
    split <;> simp
  | _ => simp [remark?]

theorem Entry.remark?_eq_warning_iff {entry : Entry} {record : Log.Record} :
    entry.remark? = some (.warning record) ↔
      record.level = .warn ∧ ∃ time, entry = .log time record := by
  cases entry with
  | log time other =>
    simp only [remark?, log.injEq]
    constructor
    · intro h
      split at h
      · rename_i hwarn
        cases h
        exact ⟨hwarn, time, rfl, rfl⟩
      · cases h
    · rintro ⟨hwarn, _, -, rfl⟩
      rw [if_pos hwarn]
  | _ => simp [remark?]

theorem mem_remarks_notice {written : List Entry} {finished : FinishedJob} :
    .notice finished ∈ remarks written ↔ .notice finished ∈ written := by
  simp only [remarks, List.mem_filterMap, Entry.remark?_eq_notice_iff, exists_eq_right]

theorem mem_remarks_warning {written : List Entry} {record : Log.Record} :
    .warning record ∈ remarks written ↔
      record.level = .warn ∧ ∃ time, .log time record ∈ written := by
  simp only [remarks, List.mem_filterMap, Entry.remark?_eq_warning_iff]
  constructor
  · rintro ⟨entry, hentry, hwarn, time, rfl⟩
    exact ⟨hwarn, time, hentry⟩
  · rintro ⟨hwarn, time, hentry⟩
    exact ⟨_, hentry, hwarn, time, rfl⟩

/-- What is seen of a journal has the first of its remarks. -/
theorem remarks_visible (journal : List Entry) : remarks (visible journal) <+: remarks journal := by
  rcases visible_cases journal with ⟨-, hseen⟩ | ⟨before, signal, after, hjournal, -, hseen⟩
  · exact ⟨[], by rw [hseen, List.append_nil]⟩
  · have hchildren : remarks (.ended signal :: after.filter Entry.isChild) = [] := by
      refine List.filterMap_eq_nil_iff.mpr (List.forall_mem_cons.mpr ⟨rfl, fun entry hentry => ?_⟩)
      have hchild := (List.mem_filter.mp hentry).2
      cases entry with
      | child stream bytes => rfl
      | _ => cases hchild
    rw [hseen, hjournal, remarks_append, remarks_append, hchildren, List.append_nil]
    exact List.prefix_append _ _

theorem Act.Calm.remarks {σ α : Type} {act : Act σ α} (h : Act.Calm act) (host : σ) :
    remarks (act host).written = [] := by
  refine List.filterMap_eq_nil_iff.mpr fun entry hentry => ?_
  have hcalm := h host entry hentry
  cases entry with
  | log time record => exact if_neg (of_decide_eq_true hcalm)
  | notice finished => cases hcalm
  | _ => rfl

/-! ## Mishaps -/

/-- Something that goes wrong and is warned of. -/
inductive Mishap
  /-- A question about a job failed. -/
  | dropped (job : Job) (errno : Errno)
  | unread (error : ShellError)
  /-- What was kept back of the output could not be handed on. -/
  | unflushed (name : String) (error : IoError)
  | unlaunched (name : String) (error : ProcessError)
  deriving DecidableEq, Repr

namespace Mishap

def record : Mishap → Log.Record
  | dropped job errno =>
    ⟨.warn, .jobs, s!"dropping background job pid {job.pid.number}: {errno.label}"⟩
  | unread error => ⟨.warn, .readLoop, s!"read failed: {error.message}"⟩
  | unflushed name error =>
    ⟨.warn, .dispatcher, s!"failed to flush stdout before launching {name}: {error.message}"⟩
  | unlaunched name error => ⟨.warn, .readLoop, s!"failed to launch {name}: {error.message}"⟩

def remark (mishap : Mishap) : Remark := .warning mishap.record

def ofRead : ReadAnswer → List Mishap
  | .failed error => [unread error]
  | _ => []

def ofFlush (name : String) : Except IoError Unit → List Mishap
  | .error error => [unflushed name error]
  | .ok _ => []

def ofDispatch (name : String) : Except ProcessError Status → List Mishap
  | .error error => [unlaunched name error]
  | .ok _ => []

/-- The jobs of a scan about which the question failed. -/
def ofScan (asked : List (Job × WaitAnswer)) : List Mishap :=
  asked.filterMap fun a => match JobTable.fate a.2 with
    | .dropped errno => some (.dropped a.1 errno)
    | _ => none

end Mishap

variable {ρ σ : Type} [Host σ]

namespace JobTable

/-- What goes wrong in a poll. -/
def mishaps (table : JobTable) (host : σ) : List Mishap :=
  let scan (host : σ) := Mishap.ofScan (table.jobs.zip (answers table.jobs host))
  if table.signalDriven then
    if (Host.takeChildNews host).value then scan (Host.takeChildNews host).state else []
  else scan host

theorem remarks_settle (job : Job) (host : σ) : remarks (settle job host).written =
    (Mishap.ofScan [(job, (Host.look job.pid host).value)]).map Mishap.remark := by
  simp only [settle, Act.bind_written, remarks_append, Act.ask_value,
    (Act.calm_ask (Host.look job.pid)).remarks, (calm_remark job.pid _).remarks, List.nil_append,
    Mishap.ofScan, List.filterMap_cons, List.filterMap_nil]
  cases fate (Host.look job.pid host).value <;> rfl

theorem remarks_settleAll (jobs : List Job) (host : σ) : remarks (settleAll jobs host).written =
    (Mishap.ofScan (jobs.zip (answers jobs host))).map Mishap.remark := by
  induction jobs generalizing host with
  | nil => rfl
  | cons job rest ih =>
    simp only [settleAll, Act.bind_written, remarks_append, remarks_settle, settle_state, ih,
      Act.pure_apply, List.append_nil, answers, List.zip_cons_cons]
    unfold Mishap.ofScan
    rw [← List.map_append, ← List.filterMap_append]
    rfl

theorem remarks_reap (table : JobTable) (host : σ) : remarks (table.reap host).written =
    (Mishap.ofScan (table.jobs.zip (answers table.jobs host))).map Mishap.remark := by
  simp only [reap, Act.bind_written, remarks_settleAll, Act.pure_apply, List.append_nil]

/-- A poll warns of each job that it drops, and of nothing else. -/
theorem remarks_poll (table : JobTable) (host : σ) :
    remarks (table.poll host).written = (table.mishaps host).map Mishap.remark := by
  unfold mishaps
  by_cases hjobs : table.jobs = []
  · rw [poll_nil hjobs]
    simp [hjobs, Mishap.ofScan, remarks]
  · cases hdriven : table.signalDriven with
    | false =>
      rw [poll_plain hjobs hdriven, remarks_reap]
      rfl
    | true =>
      have hnews : ∀ (news : Bool) (host : σ),
          remarks ((if news then table.reap else pure ([], table) : Act σ _) host).written =
            (if news then Mishap.ofScan (table.jobs.zip (answers table.jobs host))
              else []).map Mishap.remark := by
        intro news host
        cases news with
        | false => rfl
        | true => exact remarks_reap table host
      rw [poll_driven hjobs hdriven, Act.bind_written, remarks_append,
        (Act.calm_ask Host.takeChildNews).remarks, List.nil_append]
      exact hnews _ _

end JobTable

namespace Dispatcher

theorem remarks_flushFor (name : String) (host : σ) : remarks (flushFor name host).written =
    (Mishap.ofFlush name (Host.flush host).value).map Mishap.remark := by
  simp only [flushFor, Act.bind_written, remarks_append, Act.ask_value,
    (Act.calm_ask Host.flush).remarks, List.nil_append]
  cases (Host.flush host).value <;> rfl

/-- Launching warns of a flush that fails; what else goes wrong is left to the shell. -/
theorem remarks_launch (cmd : Command) (dispatcher : Dispatcher σ) (host : σ) :
    remarks (launch cmd dispatcher host).written =
      (Mishap.ofFlush cmd.name (Host.flush host).value).map Mishap.remark := by
  simp only [launch, Act.bind_written, remarks_append, remarks_flushFor,
    (Child.calm_spawn cmd).remarks, (calm_follow cmd _ dispatcher).remarks, List.append_nil]

end Dispatcher

namespace Shell

/-- What goes wrong when a command is executed. -/
def mishapsOf (cmd : Command) (shell : Shell ρ σ) (host : σ) : List Mishap :=
  (if shell.dispatcher.builtins.isBuiltin cmd.name then []
    else Mishap.ofFlush cmd.name (Host.flush host).value) ++
  Mishap.ofDispatch cmd.name (shell.dispatcher.dispatch cmd shell.state host).value.1

/-- What goes wrong when the shell does what an answer demands. -/
def respondMishaps (answer : ReadAnswer) (shell : Shell ρ σ) (host : σ) : List Mishap :=
  Mishap.ofRead answer ++ (orders answer shell).flatMap fun cmd => shell.mishapsOf cmd host

/-- No built-in tells of a job or warns. -/
def Calm (shell : Shell ρ σ) : Prop :=
  shell.dispatcher.builtins.All (Builtin.Writes fun entry => entry.isCalm = true)

theorem remarks_conclude (name : String) (result : Except ProcessError Status)
    (shell : Shell ρ σ) (host : σ) : remarks (conclude name result shell host).written =
      (Mishap.ofDispatch name result).map Mishap.remark := by
  cases result <;> rfl

section

variable {shell : Shell ρ σ} (hcalm : shell.Calm)

include hcalm

theorem remarks_execute (cmd : Command) (host : σ) : remarks (execute cmd shell host).written =
    (shell.mishapsOf cmd host).map Mishap.remark := by
  have hdispatch : remarks (shell.dispatcher.dispatch cmd shell.state host).written =
      (if shell.dispatcher.builtins.isBuiltin cmd.name then []
        else Mishap.ofFlush cmd.name (Host.flush host).value).map Mishap.remark := by
    unfold Dispatcher.dispatch Builtins.isBuiltin
    cases hfound : shell.dispatcher.builtins.get? cmd.name with
    | none =>
      simp only [Act.bind_written, Dispatcher.remarks_launch, Act.pure_apply, List.append_nil]
      rfl
    | some registration =>
      have hcall : Act.Calm (shell.dispatcher.builtins.call registration cmd shell.state) :=
        (hcalm cmd.name registration hfound registration.calls cmd shell.state).bind fun _ =>
          Act.writes_pure _
      exact Act.Calm.remarks ((Act.calm_debug _ _).bind fun _ => hcall.bind fun _ =>
        Act.writes_pure _) host
  unfold execute mishapsOf
  rw [Act.bind_written, remarks_append, hdispatch, remarks_conclude, List.map_append]

theorem remarks_executeLine (line : String) (host : σ) :
    remarks (executeLine line shell host).written =
      (shell.respondMishaps (.line line) host).map Mishap.remark := by
  have hline : shell.respondMishaps (.line line) host =
      (Command.parse line).toOption.toList.flatMap fun cmd => shell.mishapsOf cmd host := rfl
  rw [hline]
  unfold executeLine
  cases Command.parse line with
  | error e => rfl
  | ok cmd => exact (remarks_execute hcalm cmd host).trans (congrArg _ (List.append_nil _).symm)

theorem remarks_respond_closed (host : σ) : remarks (respond .closed shell host).written =
    (shell.respondMishaps .closed host).map Mishap.remark := by
  have horders : orders .closed shell = if (shell.out.write farewell).whole &&
      shell.dispatcher.builtins.isBuiltin exitCommand then [exitOrder] else [] := rfl
  unfold respondMishaps
  cases hwhole : (shell.out.write farewell).whole with
  | false =>
    rw [hwhole] at horders
    rw [respond_closed_refused hwhole, horders]
    rfl
  | true =>
    rw [hwhole] at horders
    cases hexit : shell.dispatcher.builtins.isBuiltin exitCommand with
    | false =>
      rw [hexit] at horders
      have hclosed : respond .closed (shell.moved shell.reader shell.out) host = _ :=
        respond_closed_of_not_isBuiltin hwhole hexit host
      rw [show respond .closed shell host = _ from hclosed, horders]
      rfl
    | true =>
      rw [hexit] at horders
      have hclosed : respond .closed (shell.moved shell.reader shell.out) host = _ :=
        respond_closed hwhole hexit host
      rw [show respond .closed shell host = _ from hclosed, horders]
      exact (remarks_execute hcalm exitOrder host).trans (congrArg _ (List.append_nil _).symm)

theorem remarks_respond (answer : ReadAnswer) (host : σ) :
    remarks (respond answer shell host).written =
      (shell.respondMishaps answer host).map Mishap.remark := by
  cases answer with
  | line line =>
    rw [← remarks_executeLine hcalm]
    cases hparse : Command.parse line with
    | error e =>
      obtain rfl : e = .empty := by cases e; rfl
      rw [respond_blank hparse, executeLine_blank hparse]
      rfl
    | ok cmd => rw [respond_command hparse, executeLine_command hparse]
  | closed => exact remarks_respond_closed hcalm host
  | failed error => rfl

theorem remarks_runCommand (line : String) (host : σ) :
    remarks (runCommand line shell host).written =
      (shell.respondMishaps (.line line) host).map Mishap.remark := by
  rw [← remarks_executeLine hcalm]
  by_cases hsolid : Command.solid line = []
  · have hparse := (Command.parse_eq_empty_iff line).mpr (Or.inl hsolid)
    rw [runCommand_skipped hsolid, executeLine_blank hparse]
    rfl
  · rw [runCommand_of_solid hsolid, Act.bind_written, remarks_append]
    exact List.append_nil _

end

/-! ## Rounds -/

variable [LineReader ρ]

/-- What goes wrong in a round: a job is dropped, the read fails, or the command does. -/
def roundMishaps (shell : Shell ρ σ) (host : σ) : List Mishap :=
  let reported := reportFinishedJobs shell host
  shell.dispatcher.jobs.mishaps host ++
    reported.value.respondMishaps (shell.reading host).answer reported.state

/-- What goes wrong in a run. -/
def mishaps (shell : Shell ρ σ) (host : σ) : List Mishap :=
  (shell.rounds host).flatMap fun round => round.1.roundMishaps round.2

omit [LineReader ρ] in
/-- No call brings a built-in that warns. -/
theorem kept_calm : Kept (Calm (ρ := ρ) (σ := σ)) where
  execute cmd host h := all_execute cmd _ host h
  report host h := by
    unfold Calm
    rw [builtins_reportFinishedJobs]
    exact h
  moved _ _ h := h
  requestExit h := h
  install host h := by
    obtain ⟨signalDriven, hinstalled⟩ := value_installSignalHandlers _ host
    rw [hinstalled]
    exact h

variable {shell : Shell ρ σ}

omit [LineReader ρ] in
theorem remarks_reportFinishedJobs (hquiet : shell.isQuiet = true) (host : σ) :
    remarks (reportFinishedJobs shell host).written =
      (shell.dispatcher.jobs.mishaps host).map Mishap.remark := by
  have hreaped : remarks (shell.dispatcher.reapFinished host).written =
      (shell.dispatcher.jobs.mishaps host).map Mishap.remark := by
    simp only [Dispatcher.reapFinished, Act.bind_written, JobTable.remarks_poll, Act.pure_apply,
      List.append_nil]
  simp only [reportFinishedJobs_apply, hquiet, if_true, List.append_nil, hreaped]

/-- A quiet round warns of its mishaps and tells of no job. -/
theorem remarks_step (hcalm : shell.Calm) (hquiet : shell.isQuiet = true) (host : σ) :
    remarks (step shell host).written = (shell.roundMishaps host).map Mishap.remark := by
  let reported := reportFinishedJobs shell host
  let answering := reported.value.moved (shell.reading host).rest shell.out
  -- The shell that answers has read on and prompted; neither bears on what its command meets.
  have hanswering : answering.respondMishaps (shell.reading host).answer reported.state =
      reported.value.respondMishaps (shell.reading host).answer reported.state := by
    have hvalue : reported.value = _ := value_reportFinishedJobs shell host
    simp only [answering, hvalue]
    rfl
  have hstays : answering.Calm := kept_calm.moved _ _ (kept_calm.report host hcalm)
  have hresponded := remarks_respond hstays (shell.reading host).answer reported.state
  rw [step_eq]
  unfold roundMishaps
  rw [remarks_append, remarks_reportFinishedJobs hquiet, List.map_append, ← hanswering,
    ← hresponded]
  rfl

theorem remarks_run (hcalm : shell.Calm) (hquiet : shell.isQuiet = true) (host : σ) :
    remarks (run shell host).written = (shell.mishaps host).map Mishap.remark := by
  unfold mishaps
  induction shell, host using run_induction with
  | exit shell host hexit =>
    rw [run_of_shouldExit hexit, rounds_of_shouldExit hexit]
    rfl
  | error shell host error hgo hstep =>
    rw [run_of_step_error hgo hstep, rounds_of_step_error hgo hstep, List.flatMap_singleton]
    exact remarks_step hcalm hquiet host
  | go shell host hgo hstep ih =>
    rw [run_of_step_ok hgo hstep, rounds_of_step_ok hgo hstep, List.flatMap_cons, List.map_append,
      remarks_append, remarks_step hcalm hquiet,
      ih (kept_calm.step hcalm host) ((kept_isQuiet true).step hquiet host)]

end Shell

/-! ## Programs -/

namespace Log.Filter

/-- A filter up to a level admits the records up to it, whoever writes them. -/
theorem admits_upTo (level : Level) (record : Record) :
    (upTo level).admits record = decide (record.level.rank ≤ level.rank) := rfl

end Log.Filter

namespace Program

variable [LineReader ρ]

/-- What goes wrong in a program. -/
def mishaps (args : List String) (reader : ρ) (host : σ) : List Mishap :=
  match start args with
  | .ready flags =>
    let installed := (Shell.new flags reader : Shell ρ σ).installSignalHandlers host
    match installed.value.1, flags.command with
    | .error _, _ => []
    | .ok (), some line => installed.value.2.respondMishaps (.line line) installed.state
    | .ok (), none => installed.value.2.mishaps installed.state
  | _ => []

omit [LineReader ρ] in
theorem calm_installSignalHandlers (shell : Shell ρ σ) :
    Act.Calm shell.installSignalHandlers := by
  refine (Act.calm_ask _).bind fun caught => ?_
  cases caught with
  | error text => exact Act.writes_pure _
  | ok _ =>
    have hwatch : Act.Calm (shell.dispatcher.jobs.watch : Act σ _) := by
      refine (Act.calm_ask _).bind fun watched => ?_
      cases watched <;> exact Act.writes_pure _
    exact hwatch.bind fun _ => Act.writes_pure _

/-- The options of a program that gets ready are those that were read. -/
theorem start_ready {args : List String} {flags : Flags} (h : start args = .ready flags) :
    (({} : Flags).scan args).1 = flags := by
  unfold start at h
  split at h
  · cases h
  · rename_i scanned hscan
    rw [hscan]
    split at h
    · cases h
    · split at h
      · cases h
      · cases h
        rfl

/-- A program warns of what goes wrong in its work. -/
theorem remarks_work {flags : Flags} {shell : Shell ρ σ} (hcalm : shell.Calm)
    (hquiet : shell.isQuiet = true) (host : σ) : remarks (work flags shell host).written =
      (match flags.command with
        | some line => shell.respondMishaps (.line line) host
        | none => shell.mishaps host).map Mishap.remark := by
  cases hline : flags.command with
  | some line =>
    rw [work_command hline]
    exact Shell.remarks_runCommand hcalm line host
  | none =>
    obtain ⟨hok, herror⟩ := work_loop hline shell host
    cases hresult : (shell.run host).value.1 with
    | ok code =>
      rw [hok code hresult]
      exact Shell.remarks_run hcalm hquiet host
    | error error =>
      rw [herror error hresult, remarks_append, Shell.remarks_run hcalm hquiet]
      exact List.append_nil _

/-- A quiet program tells of no job and warns of what goes wrong, once each and in order. -/
theorem remarks_run {args : List String} (hquiet : (({} : Flags).scan args).1.isSet .quiet = true)
    (reader : ρ) (host : σ) :
    remarks (run args reader host).written = (mishaps args reader host).map Mishap.remark := by
  unfold run mishaps
  cases hstart : start args with
  | refused error => rfl
  | shown text => rfl
  | ready flags =>
    rw [start_ready hstart] at hquiet
    have hnew : (Shell.new flags reader : Shell ρ σ).Calm := Builtins.calm_defaults
    have hset : (Shell.new flags reader : Shell ρ σ).isQuiet = true := hquiet
    have hcalm := Shell.kept_calm.install host hnew
    have hstays := (Shell.kept_isQuiet true).install host hset
    simp only [Act.bind_written, remarks_append, (calm_installSignalHandlers _).remarks,
      List.nil_append]
    cases ((Shell.new flags reader : Shell ρ σ).installSignalHandlers host).value.1 with
    | error error => rfl
    | ok _ =>
      simp only [remarks_work hcalm hstays]
      cases flags.command <;> rfl

/-- Without a filter in the environment and without debugging, records are shown up to warnings. -/
theorem logFilter_unset {flags : Flags} {env : Environment} (hdebug : flags.isSet .debug = false)
    (hunset : env.get? logVariable = none) : logFilter flags env = .upTo .warn := by
  unfold logFilter Environment.text?
  rw [hunset, hdebug]
  rfl

theorem errorBytes_log {args : List String} {flags : Flags} {env : Environment}
    (hstart : start args = .ready flags) (hdebug : flags.isSet .debug = false)
    (hunset : env.get? logVariable = none) (onTerminal : Bool) (time : Nat) (record : Log.Record) :
    (console args env onTerminal).errorBytes (.log time record) =
      if record.level.rank ≤ Log.Level.warn.rank then
        Bytes.ofString (record.line (Log.timestamp time))
      else [] := by
  have hfilter : (console args env onTerminal).filter = some (.upTo .warn) := by
    unfold console
    rw [hstart]
    exact congrArg some (logFilter_unset hdebug hunset)
  unfold Console.errorBytes
  simp only [hfilter, Option.any_some, Log.Filter.admits_upTo, decide_eq_true_eq]

/-- **A quiet program warns of its mishaps.**  Of a program that is to be quiet and not to debug, in
an environment without a log filter, whatever its reader and its host: it writes no notice.  Its
warnings are those of its mishaps, once each and in order, as far as it was not ended by a signal,
and each is shown on the error stream as its line.  So it warns of nothing if no job is dropped, no
read and no flush fails and each command can be launched, and only then. -/
theorem quiet_program_warns_of_mishaps (args : List String) (env : Environment)
    (onTerminal : Bool) (reader : ρ) (host : σ)
    (hquiet : (({} : Flags).scan args).1.isSet .quiet = true)
    (hdebug : (({} : Flags).scan args).1.isSet .debug = false)
    (hunset : env.get? logVariable = none) :
    let ran := run args reader host
    let wrong := mishaps args reader host
    let seen := visible ran.written
    (∀ finished, .notice finished ∉ ran.written) ∧
    remarks seen <+: wrong.map Mishap.remark ∧
    (endOf? ran.written = none → remarks seen = wrong.map Mishap.remark) ∧
    (∀ time record, .log time record ∈ seen →
      (console args env onTerminal).errorBytes (.log time record) =
        if record.level.rank ≤ Log.Level.warn.rank then
          Bytes.ofString (record.line (Log.timestamp time))
        else []) ∧
    (wrong = [] → ∀ time record, .log time record ∈ seen → record.level ≠ .warn) ∧
    (endOf? ran.written = none →
      (∀ time record, .log time record ∈ seen → record.level ≠ .warn) → wrong = []) := by
  intro ran wrong seen
  have hremarks : remarks ran.written = wrong.map Mishap.remark := remarks_run hquiet reader host
  have hprefix : remarks seen <+: remarks ran.written := remarks_visible ran.written
  have hall : endOf? ran.written = none → remarks seen = wrong.map Mishap.remark :=
    fun hend => (congrArg remarks (visible_of_endOf?_eq_none hend)).trans hremarks
  rw [hremarks] at hprefix
  refine ⟨fun finished hfinished => ?_, hprefix, hall, fun time record hrecord => ?_,
    fun hnone time record hrecord hwarn => ?_, fun hend hnone => ?_⟩
  · have hnotice := mem_remarks_notice.mpr hfinished
    rw [hremarks] at hnotice
    obtain ⟨mishap, -, hmishap⟩ := List.mem_map.mp hnotice
    cases hmishap
  · cases hstart : start args with
    | ready flags =>
      rw [start_ready hstart] at hdebug
      exact errorBytes_log hstart hdebug hunset onTerminal time record
    | refused error =>
      have hseen : seen = [.message s!"Error: {structural error}"] := by
        simp only [seen, ran, run, hstart]
        rfl
      rw [hseen] at hrecord
      simp at hrecord
    | shown text =>
      have hseen : seen = [.echo (Bytes.ofString text)] := by
        simp only [seen, ran, run, hstart]
        rfl
      rw [hseen] at hrecord
      simp at hrecord
  · have hwarning := hprefix.subset (mem_remarks_warning.mpr ⟨hwarn, time, hrecord⟩)
    rw [hnone] at hwarning
    cases hwarning
  · cases hwrong : wrong with
    | nil => rfl
    | cons mishap rest =>
      have hwarning : Remark.warning mishap.record ∈ remarks seen := by
        rw [hall hend, hwrong]
        exact List.mem_cons_self
      obtain ⟨hwarn, time, hrecord⟩ := mem_remarks_warning.mp hwarning
      exact absurd hwarn (hnone time _ hrecord)

/-- Input that ends a session at once. -/
def leaving : StreamReader := { input := Bytes.ofString "exit 3\n" }

/-- Where nothing goes wrong, nothing is warned of. -/
theorem quiet_program_warns_of_mishaps_none :
    let ran := run ["-q"] leaving Simulation.single
    (∀ finished, .notice finished ∉ ran.written) ∧
      ∀ time record, .log time record ∈ visible ran.written → record.level ≠ .warn := by
  intro ran
  obtain ⟨hnotice, -, -, -, hnone, -⟩ := quiet_program_warns_of_mishaps ["-q"] {} false leaving
    Simulation.single (by decide +kernel) (by decide +kernel) (by decide +kernel)
  refine ⟨hnotice, hnone ?_⟩
  let installed := (Shell.new { quiet := some "true" } leaving :
    Shell StreamReader Simulation).installSignalHandlers Simulation.single
  have hrounds : installed.value.2.rounds installed.state =
      [(installed.value.2, installed.state)] := by
    rw [Shell.rounds_of_step_ok (by decide +kernel) (by decide +kernel),
      Shell.rounds_of_shouldExit (by decide +kernel)]
  show (installed.value.2.rounds installed.state).flatMap _ = []
  rw [hrounds, List.flatMap_singleton]
  decide +kernel

/-- Input with a word that cannot be passed. -/
def unpassable : StreamReader := { input := Bytes.ofString "echo a\x00b\nexit 1\n" }

theorem quiet_program_warns :
    let ran := run ["-q"] unpassable Simulation.single
    let record : Log.Record := ⟨.warn, .readLoop,
      "failed to launch echo: argument contains a NUL byte: \"a\\0b\""⟩
    (({} : Flags).scan ["-q"]).1.isSet .quiet = true ∧
    (({} : Flags).scan ["-q"]).1.isSet .debug = false ∧
    ({} : Environment).get? logVariable = none ∧
    .log 0 record ∈ visible ran.written ∧
    (console ["-q"] {} false).errorBytes (.log 0 record) = Bytes.ofString
      "1970-01-01T00:00:00.000000Z  WARN failed to launch echo: argument contains a NUL byte: \"a\\0b\"\n" := by
  intro ran record
  let installed := (Shell.new { quiet := some "true" } unpassable :
    Shell StreamReader Simulation).installSignalHandlers Simulation.single
  let looped := Shell.runWithin (Shell.roundsLeft installed.value.2) installed.value.2
    installed.state
  have hended : looped.value = some (installed.value.2.run installed.state).value :=
    Shell.runWithin_of_roundsLeft (Nat.le_refl _) _
  have hcode : (installed.value.2.run installed.state).value.1 = .ok 1 := by
    have hlooped : looped.value.map (·.1) = some (.ok 1) := by decide +kernel
    rw [hended] at hlooped
    exact Option.some.inj hlooped
  have hrun : installed.value.2.run installed.state = _ := Shell.run_of_runWithin hended
  have hran : ran.written = installed.written ++ looped.written := by
    have hscan : ({} : Flags).scan ["-q"] = ({ quiet := some "true" }, .ok ()) := by
      decide +kernel
    have hready : ran = _ := run_ready hscan (by decide +kernel) (by decide +kernel) (by rfl)
    rw [hready, (work_loop (by rfl) _ _).1 1 hcode, hrun]
  refine ⟨by decide +kernel, by decide +kernel, by decide +kernel, ?_, by decide +kernel⟩
  rw [hran]
  decide +kernel

end Program

end JobShell
