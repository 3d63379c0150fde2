import JobShell.Proofs.EndOfInput
import JobShell.Proofs.Itinerary

/-!
# What a session sends out and what it is answered

An errand is a command that is dispatched, with what it is answered: the reply of a built-in, or
what came of a launch.  Of a shell only its gist decides how it goes on: its state, where it echoes,
how often each built-in was called, and the number of the next job.  A round changes the gist as its
errands were answered and in no other way (`Shell.step_follows`); its host, its reader and its jobs
have no other part in it.
-/

namespace JobShell

/-- What a command is answered. -/
inductive Answer
  /-- A built-in replied. -/
  | replied (reply : Reply)
  /-- A launch came to this status. -/
  | launched (status : Status)
  | failed (error : ProcessError)
  deriving DecidableEq

def Answer.ofLaunch : Except ProcessError Status → Answer
  | .ok status => launched status
  | .error error => failed error

/-- What a command is dispatched in. -/
structure Occasion where
  cmd : Command
  state : ShellState
  /-- How often it was called before, if it is a built-in. -/
  calls? : Option Nat
  deriving DecidableEq

structure Errand where
  occasion : Occasion
  answer : Answer
  /-- The numbers of the jobs that were entered. -/
  ids : List Nat
  deriving DecidableEq

/-- The numbers of the jobs that an answer enters. -/
def Answer.ids (cmd : Command) (next : Nat) : Answer → List Nat
  | launched _ => if cmd.isBackground then [next] else []
  | _ => []

/-- What decides how a shell goes on. -/
structure Gist where
  state : ShellState
  out : Sink
  /-- How often each built-in was called. -/
  calls? : String → Option Nat
  nextId : Nat

namespace Gist

/-- The errand of a command that is so answered. -/
def errand (g : Gist) (cmd : Command) (answer : Answer) : Errand :=
  ⟨⟨cmd, g.state, g.calls? cmd.name⟩, answer, answer.ids cmd g.nextId⟩

def after (g : Gist) (errand : Errand) : Gist :=
  match errand.answer with
  | .replied reply => { g with
      state := (g.state.applyAll reply.requests).record (.builtin reply.code)
      calls? := Function.update g.calls? errand.occasion.cmd.name
        (errand.occasion.calls?.map (· + 1)) }
  | .launched status => { g with
      state := g.state.record status
      nextId := g.nextId + errand.ids.length }
  | .failed _ => g

/-- The commands that an answer of the reader orders. -/
def orders (g : Gist) : ReadAnswer → List Command
  | .line line => (Command.parse line).toOption.toList
  | .closed =>
    if (g.out.write Shell.farewell).whole && (g.calls? Shell.exitCommand).isSome then
      [Shell.exitOrder]
    else []
  | .failed _ => []

/-- Whether a round goes well, by the answer of its reader. -/
def result (g : Gist) : ReadAnswer → Except ShellError Unit
  | .closed =>
    if (g.out.write Shell.farewell).whole then .ok () else .error (.io .writeRefused)
  | _ => .ok ()

/-- What a round echoes, by the answer of its reader. -/
def echo (g : Gist) : ReadAnswer → Bytes
  | .closed => (g.out.write Shell.farewell).taken
  | _ => []

/-- What a round leaves, by the answer of its reader and its errands. -/
def advance (g : Gist) (answer : ReadAnswer) (errands : List Errand) : Gist :=
  let ran := errands.foldl after g
  match answer with
  | .line _ => ran
  | .closed => { ran with
      out := (g.out.write Shell.farewell).sink
      state := if (g.out.write Shell.farewell).whole then ran.state.requestExit else ran.state }
  | .failed _ => { ran with state := ran.state.requestExit }

end Gist

namespace Builtins

variable {σ : Type}

/-- How often a built-in was called. -/
def calls? (builtins : Builtins σ) (name : String) : Option Nat :=
  (builtins.get? name).map (·.calls)

theorem calls?_put (builtins : Builtins σ) (name : String) (registration : Registration σ) :
    (builtins.put name registration).calls? =
      Function.update builtins.calls? name (some registration.calls) := by
  funext other
  unfold calls?
  by_cases hother : other = name
  · rw [hother, get?_put_self, Function.update_self]
    rfl
  · rw [get?_put_of_ne builtins hother, Function.update_of_ne hother]

/-- No built-in writes an echo. -/
def Silent (builtins : Builtins σ) : Prop :=
  builtins.All (Builtin.Writes fun entry => Console.echoBytes entry = [])

end Builtins

variable {ρ σ : Type} [Host σ]

namespace Dispatcher

/-- What a command is answered when it is dispatched. -/
def answer (cmd : Command) (state : ShellState) (dispatcher : Dispatcher σ) (host : σ) : Answer :=
  match dispatcher.builtins.get? cmd.name with
  | some registration => .replied (registration.handler registration.calls cmd state host).value
  | none => .ofLaunch (launch cmd dispatcher host).value.1

/-- A launch enters the jobs that its answer says. -/
theorem jobs_launch (cmd : Command) (dispatcher : Dispatcher σ) (host : σ) :
    let launched := (launch cmd dispatcher host).value
    ∃ entered : List Job,
      entered.map (·.id) = (Answer.ofLaunch launched.1).ids cmd dispatcher.jobs.nextId ∧
      launched.2.jobs.jobs = dispatcher.jobs.jobs ++ entered ∧
      launched.2.jobs.nextId = dispatcher.jobs.nextId + entered.length := by
  dsimp only
  rcases launch_value_cases cmd dispatcher host with
    ⟨error, -, hvalue⟩ | ⟨pid, -, ⟨hback, hvalue⟩ | ⟨hfore, hvalue⟩⟩
  · rw [hvalue]
    exact ⟨[], rfl, (List.append_nil _).symm, rfl⟩
  · rw [hvalue]
    refine ⟨[_], ?_, rfl, rfl⟩
    simp only [Answer.ofLaunch, Answer.ids, hback, if_true]
    rfl
  · rw [hvalue]
    refine ⟨[], ?_, (List.append_nil _).symm, rfl⟩
    -- a child that was waited for is no job, however the wait went
    cases (Child.await pid (attempt cmd host).state).value with
    | error error => rfl
    | ok status =>
      simp only [Answer.ofLaunch, Answer.ids, hfore, Bool.false_eq_true, if_false, List.map_nil]

end Dispatcher

namespace Shell

def gist (shell : Shell ρ σ) : Gist :=
  ⟨shell.state, shell.out, shell.dispatcher.builtins.calls?, shell.dispatcher.jobs.nextId⟩

/-- What a command is answered by this shell. -/
def answer (cmd : Command) (shell : Shell ρ σ) (host : σ) : Answer :=
  shell.dispatcher.answer cmd shell.state host

/-- The errand of executing a command, with the jobs as the table has them then. -/
def errand (cmd : Command) (shell : Shell ρ σ) (host : σ) : Errand where
  occasion := ⟨cmd, shell.state, shell.dispatcher.builtins.calls? cmd.name⟩
  answer := shell.answer cmd host
  ids := ((execute cmd shell host).value.2.dispatcher.jobs.jobs.drop
    shell.dispatcher.jobs.jobs.length).map (·.id)

section

variable (cmd : Command) (shell : Shell ρ σ) (host : σ)

/-- The errand of a command and what it leaves are decided by the gist and the answer. -/
theorem execute_follows : shell.errand cmd host = shell.gist.errand cmd (shell.answer cmd host) ∧
    (execute cmd shell host).value.2.gist = shell.gist.after (shell.errand cmd host) := by
  cases hfound : shell.dispatcher.builtins.get? cmd.name with
  | some registration =>
    have hran := execute_called hfound host
    have hanswer : shell.answer cmd host =
        .replied (registration.handler registration.calls cmd shell.state host).value := by
      unfold answer Dispatcher.answer
      rw [hfound]
    have hcalls : shell.dispatcher.builtins.calls? cmd.name = some registration.calls := by
      unfold Builtins.calls?
      rw [hfound]
      rfl
    have herrand : shell.errand cmd host = shell.gist.errand cmd (shell.answer cmd host) := by
      unfold errand
      rw [hran, List.drop_length, hanswer]
      rfl
    rw [herrand, hanswer, hran]
    refine ⟨rfl, ?_⟩
    simp only [gist, Gist.after, Gist.errand, hcalls, Builtins.calls?_put, Option.map_some]
  | none =>
    have hran := execute_launched hfound host
    obtain ⟨entered, hids, hjobs, hnext⟩ := Dispatcher.jobs_launch cmd shell.dispatcher host
    have hbuiltins := Dispatcher.builtins_launch cmd shell.dispatcher host
    have hanswer : shell.answer cmd host =
        .ofLaunch (Dispatcher.launch cmd shell.dispatcher host).value.1 := by
      unfold answer Dispatcher.answer
      rw [hfound]
    have herrand : shell.errand cmd host = shell.gist.errand cmd (shell.answer cmd host) := by
      unfold errand
      rw [hran, hjobs, List.drop_left, hids, hanswer]
      rfl
    have hlength := congrArg List.length hids
    rw [List.length_map] at hlength
    rw [herrand, hanswer, hran]
    refine ⟨rfl, ?_⟩
    simp only [gist, Gist.after, Gist.errand, hbuiltins, hnext, hlength]
    cases (Dispatcher.launch cmd shell.dispatcher host).value.1 <;> rfl

theorem all_execute {kind : Builtin σ → Prop} (h : shell.dispatcher.builtins.All kind) :
    (execute cmd shell host).value.2.dispatcher.builtins.All kind := by
  have hdispatched := Dispatcher.all_dispatch h cmd shell.state host
  unfold execute conclude
  rw [Act.bind_value]
  cases (shell.dispatcher.dispatch cmd shell.state host).value.1 <;> exact hdispatched

theorem echoed_execute (h : shell.dispatcher.builtins.Silent) :
    echoed (execute cmd shell host).written = [] := by
  have hwrites : Act.Writes (fun entry => Console.echoBytes entry = []) (execute cmd shell) :=
    (Dispatcher.writes_dispatch Entry.echoBytes_of_isAside h cmd shell.state).bind fun _ =>
      (aside_conclude _ _ _).writes Entry.echoBytes_of_isAside
  exact echoed_eq_nil_iff.mpr (hwrites host)

end

/-! ## The answers of a reader -/

omit [Host σ] in
theorem isBuiltin_eq (shell : Shell ρ σ) (name : String) :
    shell.dispatcher.builtins.isBuiltin name = (shell.gist.calls? name).isSome := by
  unfold Builtins.isBuiltin gist Builtins.calls?
  rw [Option.isSome_map]

omit [Host σ] in
theorem orders_eq (answer : ReadAnswer) (shell : Shell ρ σ) :
    orders answer shell = shell.gist.orders answer := by
  cases answer with
  | closed =>
    unfold orders Gist.orders
    rw [isBuiltin_eq]
    rfl
  | _ => rfl

section

variable {shell : Shell ρ σ}

theorem respond_blank {line : String} (h : Command.parse line = .error .empty) (host : σ) :
    respond (.line line) shell host = ⟨(.ok (), shell), [], host⟩ := by
  simp only [respond, executeLine, h]
  cases line.isEmpty <;> rfl

theorem respond_command {line : String} {cmd : Command} (h : Command.parse line = .ok cmd)
    (host : σ) : respond (.line line) shell host =
      ⟨(.ok (), (execute cmd shell host).value.2), (execute cmd shell host).written,
        (execute cmd shell host).state⟩ := by
  have hline : line.isEmpty = false := by
    by_contra hempty
    rw [Bool.not_eq_false, String.isEmpty_iff] at hempty
    rw [hempty, Session.parse_empty] at h
    cases h
  simp only [respond, executeLine_command h, hline, Bool.false_eq_true, if_false, Act.bind_apply,
    Act.pure_apply, List.append_nil]

/-- An echo that is not written whole ends the round at once. -/
theorem respond_closed_refused (h : (shell.out.write farewell).whole = false) (host : σ) :
    respond .closed shell host =
      ⟨(.error (.io .writeRefused), { shell with out := (shell.out.write farewell).sink }),
        [.echo (shell.out.write farewell).taken], host⟩ := by
  simp only [respond, Act.bind_apply, echoExit_sink, h, Bool.false_eq_true, if_false, leaveAfter]
  rfl

end

/-- What a response does, by the gist of the shell and its errands: it goes well or not, leaves a
gist, keeps the built-ins of one kind, and echoes. -/
structure Follows (shell : Shell ρ σ) (answer : ReadAnswer) (errands : List Errand)
    (responded : Outcome Entry σ (Except ShellError Unit × Shell ρ σ)) : Prop where
  result : responded.value.1 = shell.gist.result answer
  gist : responded.value.2.gist = shell.gist.advance answer errands
  all : ∀ kind, shell.dispatcher.builtins.All kind →
    responded.value.2.dispatcher.builtins.All kind
  echoed : shell.dispatcher.builtins.Silent →
    echoed responded.written = shell.gist.echo answer

theorem respond_closed_follows (shell : Shell ρ σ) (host : σ) :
    shell.Follows .closed ((orders .closed shell).map fun cmd => shell.errand cmd host)
      (respond .closed shell host) := by
  have hresult : shell.gist.result .closed =
      if (shell.out.write farewell).whole then .ok () else .error (.io .writeRefused) := rfl
  have hadvance : ∀ errands : List Errand, shell.gist.advance .closed errands =
      { errands.foldl Gist.after shell.gist with
        out := (shell.out.write farewell).sink
        state := if (shell.out.write farewell).whole then
          (errands.foldl Gist.after shell.gist).state.requestExit
          else (errands.foldl Gist.after shell.gist).state } := fun _ => rfl
  have horders : orders .closed shell = if (shell.out.write farewell).whole &&
      shell.dispatcher.builtins.isBuiltin exitCommand then [exitOrder] else [] := rfl
  cases hwhole : (shell.out.write farewell).whole with
  | false =>
    rw [hwhole] at hresult hadvance horders
    rw [respond_closed_refused hwhole, horders]
    refine ⟨hresult.symm, ?_, fun _ h => h, fun _ => List.append_nil _⟩
    rw [hadvance]
    rfl
  | true =>
    have hecho : ∀ written, echoed written = [] →
        echoed (.echo farewell :: written) = shell.gist.echo .closed := by
      intro written hsilent
      have htaken : shell.gist.echo .closed = farewell := Sink.taken_of_whole hwhole
      rw [← List.singleton_append, echoed_append, hsilent, htaken, List.append_nil]
      exact List.append_nil farewell
    rw [hwhole] at hresult hadvance horders
    cases hexit : shell.dispatcher.builtins.isBuiltin exitCommand with
    | true =>
      rw [hexit] at horders
      have hclosed : respond .closed (shell.moved shell.reader shell.out) host = _ :=
        respond_closed hwhole hexit host
      have hran : [shell.errand exitOrder host].foldl Gist.after shell.gist =
          (execute exitOrder shell host).value.2.gist :=
        (execute_follows exitOrder shell host).2.symm
      rw [show respond .closed shell host = _ from hclosed, horders]
      refine ⟨hresult.symm, ?_, fun _ h => all_execute exitOrder shell host h,
        fun h => hecho _ (echoed_execute exitOrder shell host h)⟩
      rw [hadvance]
      simp only [Bool.and_self, if_true, List.map_singleton, hran]
      rfl
    | false =>
      rw [hexit] at horders
      have hclosed : respond .closed (shell.moved shell.reader shell.out) host = _ :=
        respond_closed_of_not_isBuiltin hwhole hexit host
      rw [show respond .closed shell host = _ from hclosed, horders]
      refine ⟨hresult.symm, ?_, fun _ h => h, fun _ => hecho _ rfl⟩
      rw [hadvance]
      rfl

/-- A response does what the gist of the shell and its errands say. -/
theorem respond_follows (answer : ReadAnswer) (shell : Shell ρ σ) (host : σ) :
    shell.Follows answer ((orders answer shell).map fun cmd => shell.errand cmd host)
      (respond answer shell host) := by
  cases answer with
  | line line =>
    have horders : orders (.line line) shell = (Command.parse line).toOption.toList := rfl
    rw [horders]
    cases hparse : Command.parse line with
    | error e =>
      obtain rfl : e = .empty := by cases e; rfl
      rw [respond_blank hparse]
      exact ⟨rfl, rfl, fun _ h => h, fun _ => rfl⟩
    | ok cmd =>
      rw [respond_command hparse]
      exact ⟨rfl, (execute_follows cmd shell host).2, fun _ h => all_execute cmd shell host h,
        fun h => echoed_execute cmd shell host h⟩
  | closed => exact respond_closed_follows shell host
  | failed error => exact ⟨rfl, rfl, fun _ h => h, fun _ => rfl⟩

/-! ## Rounds -/

variable [LineReader ρ]

/-- The errands of a round. -/
def roundErrands (shell : Shell ρ σ) (host : σ) : List Errand :=
  let reported := reportFinishedJobs shell host
  (orders (shell.reading host).answer shell).map fun cmd =>
    reported.value.errand cmd reported.state

theorem reader_step (shell : Shell ρ σ) (host : σ) :
    (step shell host).value.2.reader = (shell.reading host).rest := by
  rw [step_eq]
  exact reader_respond _ _ _

section

omit [LineReader ρ]

theorem gist_reportFinishedJobs (shell : Shell ρ σ) (host : σ) :
    (reportFinishedJobs shell host).value.gist = shell.gist := by
  have hnext : (shell.dispatcher.jobs.poll host).value.2.nextId = shell.dispatcher.jobs.nextId := by
    obtain ⟨host', -, ⟨hvalue, -⟩ | ⟨hvalue, -⟩⟩ := JobTable.poll_cases shell.dispatcher.jobs host
    · rw [hvalue]
    · rw [hvalue]
      rfl
  rw [value_reportFinishedJobs]
  unfold gist
  rw [hnext]

theorem aside_reportFinishedJobs {ω : Type} (shell : Shell ρ σ ω) :
    Act.Aside (reportFinishedJobs shell) := by
  refine (Dispatcher.aside_reapFinished shell.dispatcher).bind fun reaped => ?_
  cases shell.isQuiet with
  | true => exact (Act.writes_pure ()).bind fun _ => Act.writes_pure _
  | false => exact (aside_writeNotices reaped.1).bind fun _ => Act.writes_pure _

theorem errand_moved (cmd : Command) (shell : Shell ρ σ) (reader : ρ) (out : Sink) (host : σ) :
    (shell.moved reader out).errand cmd host = shell.errand cmd host := by
  unfold errand
  rw [execute_moved]
  rfl

end

/-- The errands of a round are decided by the gist and their answers. -/
theorem roundErrands_eq (shell : Shell ρ σ) (host : σ) : shell.roundErrands host =
    (shell.gist.orders (shell.reading host).answer).map fun cmd => shell.gist.errand cmd
      ((reportFinishedJobs shell host).value.answer cmd (reportFinishedJobs shell host).state) := by
  unfold roundErrands
  simp only [orders_eq, execute_follows, gist_reportFinishedJobs]

/-- A round does what the gist of its shell, the answer of its reader and its errands say. -/
theorem step_follows (shell : Shell ρ σ) (host : σ) :
    shell.Follows (shell.reading host).answer (shell.roundErrands host) (step shell host) := by
  let reported := reportFinishedJobs shell host
  let answering := reported.value.moved (shell.reading host).rest shell.out
  have hgist : answering.gist = shell.gist := by
    have hmoved : answering.gist = { reported.value.gist with out := shell.out } := rfl
    rw [hmoved, gist_reportFinishedJobs]
    rfl
  have herrands : ((orders (shell.reading host).answer answering).map fun cmd =>
      answering.errand cmd reported.state) = shell.roundErrands host := by
    unfold roundErrands
    simp only [orders_eq, hgist]
    exact List.map_congr_left fun cmd _ => errand_moved cmd reported.value _ _ _
  have hbuiltins : answering.dispatcher.builtins = shell.dispatcher.builtins :=
    builtins_reportFinishedJobs shell host
  have hfollows := respond_follows (shell.reading host).answer answering reported.state
  rw [herrands] at hfollows
  obtain ⟨hresult, hleft, hall, hechoed⟩ := hfollows
  rw [hgist] at hresult hleft hechoed
  rw [hbuiltins] at hall hechoed
  rw [step_eq]
  refine ⟨hresult, hleft, hall, fun hsilent => ?_⟩
  rw [echoed_append, (aside_reportFinishedJobs shell).echoed host, List.nil_append]
  exact hechoed hsilent

/-! ## Runs -/

/-- The errands of a run. -/
def errands (shell : Shell ρ σ) (host : σ) : List Errand :=
  (shell.rounds host).flatMap fun round => round.1.roundErrands round.2

/-- What the rounds of a run echo. -/
def echoes (shell : Shell ρ σ) (host : σ) : Bytes :=
  (shell.rounds host).flatMap fun round => round.1.gist.echo (round.1.reading round.2).answer

theorem errands_of_shouldExit {shell : Shell ρ σ} (h : shell.state.shouldExit = true) (host : σ) :
    shell.errands host = [] ∧ shell.echoes host = [] := by
  unfold errands echoes
  rw [rounds_of_shouldExit h]
  exact ⟨rfl, rfl⟩

theorem errands_of_step_error {shell : Shell ρ σ} {host : σ} {error : ShellError}
    (hgo : shell.state.shouldExit = false) (hstep : (step shell host).value.1 = .error error) :
    shell.errands host = shell.roundErrands host ∧
      shell.echoes host = shell.gist.echo (shell.reading host).answer := by
  unfold errands echoes
  rw [rounds_of_step_error hgo hstep, List.flatMap_singleton, List.flatMap_singleton]
  exact ⟨rfl, rfl⟩

theorem errands_of_step_ok {shell : Shell ρ σ} {host : σ}
    (hgo : shell.state.shouldExit = false) (hstep : (step shell host).value.1 = .ok ()) :
    shell.errands host = shell.roundErrands host ++
        (step shell host).value.2.errands (step shell host).state ∧
      shell.echoes host = shell.gist.echo (shell.reading host).answer ++
        (step shell host).value.2.echoes (step shell host).state := by
  unfold errands echoes
  rw [rounds_of_step_ok hgo hstep, List.flatMap_cons, List.flatMap_cons]
  exact ⟨rfl, rfl⟩

/-- The errands of a run are its commands. -/
theorem commandsOf_marks (shell : Shell ρ σ) (host : σ) :
    commandsOf (shell.marks host) = (shell.errands host).map (·.occasion.cmd) := by
  have hround : ∀ round : Shell ρ σ × σ, commandsOf ((markedStep round.1).marks round.2) =
      (round.1.roundErrands round.2).map (·.occasion.cmd) := by
    intro round
    have hcommand : (Mark.command? ∘ Mark.dispatched) = some := rfl
    unfold commandsOf roundErrands
    rw [marks_markedStep, List.filterMap_cons_none rfl, List.filterMap_map, hcommand,
      List.filterMap_some, List.map_map]
    exact (List.map_id' _).symm
  unfold commandsOf at hround ⊢
  unfold errands
  simp only [marks_eq_rounds, List.filterMap_flatMap, List.map_flatMap, hround]

/-- As long as no built-in echoes, a run echoes what its rounds echo. -/
theorem echoed_run {shell : Shell ρ σ} (host : σ) (h : shell.dispatcher.builtins.Silent) :
    echoed (shell.run host).written = shell.echoes host := by
  induction shell, host using run_induction with
  | exit shell host hexit =>
    rw [run_of_shouldExit hexit, (errands_of_shouldExit hexit host).2]
    rfl
  | error shell host error hgo hstep =>
    rw [run_of_step_error hgo hstep, (errands_of_step_error hgo hstep).2]
    exact (step_follows shell host).echoed h
  | go shell host hgo hstep ih =>
    have hfollows := step_follows shell host
    rw [run_of_step_ok hgo hstep, (errands_of_step_ok hgo hstep).2, echoed_append,
      hfollows.echoed h, ih (hfollows.all _ h)]

end Shell

end JobShell
