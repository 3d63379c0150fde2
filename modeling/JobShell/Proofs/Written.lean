import JobShell.Proofs.Dispatch
import JobShell.Proofs.Session

/-!
# What is written aside

The read loop shows prompts and the echo of the end of the input; all else that it and its parts
write goes beside these (`Entry.isAside`): notices, failures, messages, log records and what the
children write.  Reaping, launching and waiting write nothing else, and a dispatch writes nothing
else but what the built-in that it calls writes (`Dispatcher.writes_dispatch`).  What neither tells
of a job nor warns is calm (`Entry.isCalm`), as is all that the parts write in which nothing goes
wrong.
-/

namespace JobShell

/-- Neither a prompt nor an echo. -/
def Entry.isAside : Entry → Bool
  | .prompt _ => false
  | .echo _ => false
  | _ => true

/-- Written aside, and neither a notice nor a warning. -/
def Entry.isCalm : Entry → Bool
  | .prompt _ => false
  | .echo _ => false
  | .notice _ => false
  | .log _ record => decide (record.level ≠ .warn)
  | _ => true

theorem Entry.isAside_of_isCalm (entry : Entry) (h : entry.isCalm = true) :
    entry.isAside = true := by
  cases entry with
  | prompt bytes => cases h
  | echo bytes => cases h
  | _ => rfl

namespace Act

variable {σ α β : Type} {kind : Entry → Prop}

/-- All that the action writes is of this kind, whatever the host. -/
def Writes (kind : Entry → Prop) (act : Act σ α) : Prop :=
  ∀ host, ∀ entry ∈ (act host).written, kind entry

abbrev Aside (act : Act σ α) : Prop := Writes (fun entry => entry.isAside = true) act

theorem Aside.writes {act : Act σ α} (h : Aside act)
    (hkind : ∀ entry, entry.isAside = true → kind entry) : Writes kind act :=
  fun host entry hentry => hkind entry (h host entry hentry)

abbrev Calm (act : Act σ α) : Prop := Writes (fun entry => entry.isCalm = true) act

theorem Calm.writes {act : Act σ α} (h : Calm act)
    (hkind : ∀ entry, entry.isAside = true → kind entry) : Writes kind act :=
  fun host entry hentry => hkind entry (entry.isAside_of_isCalm (h host entry hentry))

theorem Calm.aside {act : Act σ α} (h : Calm act) : Aside act := h.writes fun _ => id

theorem writes_pure (a : α) : Writes kind (pure a : Act σ α) := by
  intro host entry hentry
  cases hentry

theorem Writes.bind {act : Act σ α} {next : α → Act σ β} (h : Writes kind act)
    (h' : ∀ a, Writes kind (next a)) : Writes kind (act >>= next) := by
  intro host entry hentry
  rw [bind_written] at hentry
  rcases List.mem_append.mp hentry with hentry | hentry
  · exact h host entry hentry
  · exact h' _ _ entry hentry

theorem writes_write {entry : Entry} (h : kind entry) : Writes kind (write entry : Act σ Unit) := by
  intro host other hother
  rw [List.mem_singleton.mp hother]
  exact h

theorem aside_write {entry : Entry} (h : entry.isAside = true) :
    Aside (write entry : Act σ Unit) := writes_write h

theorem calm_message (text : String) : Calm (write (.message text) : Act σ Unit) :=
  writes_write rfl

theorem calm_ask (question : σ → Outcome Output σ α) : Calm (ask question) := by
  intro host entry hentry
  obtain ⟨output, -, rfl⟩ := List.mem_map.mp hentry
  cases output <;> rfl

theorem writes_view (f : σ → α) : Writes kind (view f) := by
  intro host entry hentry
  cases hentry

variable [Host σ]

theorem aside_log (level : Log.Level) (source : Log.Source) (message : String) :
    Aside (log level source message : Act σ Unit) := by
  intro host entry hentry
  rw [List.mem_singleton.mp hentry]
  rfl

theorem calm_debug (source : Log.Source) (message : String) :
    Calm (debug source message : Act σ Unit) := by
  intro host entry hentry
  rw [List.mem_singleton.mp hentry]
  rfl

theorem aside_warn (source : Log.Source) (message : String) :
    Aside (warn source message : Act σ Unit) := aside_log _ _ _

end Act

open Act (Writes Aside Calm writes_pure writes_write aside_write calm_message calm_ask writes_view
  calm_debug aside_warn)

variable {σ : Type} [Host σ]

/-! ## Jobs and children -/

namespace JobTable

theorem calm_remark (pid : Pid) (answer : WaitAnswer) :
    Calm (remark pid answer : Act σ Unit) := by
  cases answer with
  | changed event => exact calm_debug _ _
  | _ => exact writes_pure ()

theorem aside_meet (job : Job) (verdict : Fate) : Aside (meet job verdict : Act σ _) := by
  cases verdict with
  | finished status =>
    exact (calm_debug _ _).aside.bind fun _ => (writes_view _).bind fun _ => writes_pure _
  | kept => exact writes_pure _
  | dropped errno => exact (aside_warn _ _).bind fun _ => writes_pure _

theorem aside_settle (job : Job) : Aside (settle job : Act σ _) :=
  (calm_ask _).aside.bind fun answer => (calm_remark job.pid answer).aside.bind fun _ =>
    aside_meet job (fate answer)

theorem aside_settleAll (jobs : List Job) : Aside (settleAll jobs : Act σ _) := by
  induction jobs with
  | nil => exact writes_pure _
  | cons job rest ih => exact (aside_settle job).bind fun _ => ih.bind fun _ => writes_pure _

theorem aside_poll (table : JobTable) : Aside (table.poll : Act σ _) := by
  have hreap : Aside (table.reap : Act σ _) :=
    (aside_settleAll table.jobs).bind fun _ => writes_pure _
  by_cases hjobs : table.jobs = []
  · rw [poll_nil hjobs]
    exact writes_pure _
  · cases hdriven : table.signalDriven with
    | false =>
      rw [poll_plain hjobs hdriven]
      exact hreap
    | true =>
      rw [poll_driven hjobs hdriven]
      refine (calm_ask _).aside.bind fun news => ?_
      cases news with
      | false => exact writes_pure _
      | true => exact hreap

end JobTable

namespace Child

theorem calm_spawn (cmd : Command) : Calm (spawn cmd : Act σ _) := by
  unfold spawn
  cases Argv.ofCommand cmd with
  | error word => exact writes_pure _
  | ok argv =>
    refine (calm_ask _).bind fun result => ?_
    cases result with
    | error errno => exact writes_pure _
    | ok pid => exact (calm_debug _ _).bind fun _ => writes_pure _

theorem calm_note (pid : Pid) (answer : WaitAnswer) : Calm (note pid answer : Act σ Unit) := by
  cases answer with
  | failed errno => exact writes_pure ()
  | _ => exact calm_debug _ _

theorem calm_await (pid : Pid) : Calm (await pid : Act σ _) := by
  intro host
  -- one question and its note, and then the result or what the wait goes on with
  have hfirst : ∀ (host : σ) (later : List Entry),
      (∀ entry ∈ later, entry.isCalm = true) →
      ∀ entry ∈ (Act.ask (Host.wait pid) host).written ++
        ((note pid (Host.wait pid host).value (Host.wait pid host).state).written ++ later),
        entry.isCalm = true := by
    intro host later hlater entry hentry
    rcases List.mem_append.mp hentry with hentry | hentry
    · exact calm_ask _ host entry hentry
    · rcases List.mem_append.mp hentry with hentry | hentry
      · exact calm_note _ _ _ entry hentry
      · exact hlater entry hentry
  refine await_induction pid (fun host result hverdict => ?_) (fun host hverdict ih => ?_) host
  · rw [congrFun (await_eq pid) host, Act.bind_written, Act.bind_written, Act.ask_value, hverdict]
    exact hfirst host [] fun entry hentry => absurd hentry List.not_mem_nil
  · rw [congrFun (await_eq pid) host, Act.bind_written, Act.bind_written, Act.ask_value, hverdict,
      note_state, Act.ask_state]
    exact hfirst host _ ih

end Child

/-! ## Commands -/

namespace Dispatcher

theorem aside_reapFinished (dispatcher : Dispatcher σ) :
    Aside (dispatcher.reapFinished : Act σ _) :=
  (JobTable.aside_poll dispatcher.jobs).bind fun _ => writes_pure _

theorem aside_flushFor (name : String) : Aside (flushFor name : Act σ Unit) := by
  refine (calm_ask _).aside.bind fun result => ?_
  cases result with
  | error error => exact aside_warn _ _
  | ok _ => exact writes_pure ()

theorem calm_follow (cmd : Command) (spawned : Except ProcessError Pid)
    (dispatcher : Dispatcher σ) : Calm (follow cmd spawned dispatcher : Act σ _) := by
  cases spawned with
  | error error => exact writes_pure _
  | ok pid =>
    unfold follow
    cases cmd.isBackground with
    | true =>
      simp only [if_true]
      refine Act.Writes.bind ?_ fun _ => writes_pure _
      exact (calm_debug _ _).bind fun _ => (writes_view _).bind fun _ => writes_pure _
    | false =>
      simp only [Bool.false_eq_true, if_false]
      exact (Child.calm_await pid).bind fun _ => writes_pure _

theorem aside_launch (cmd : Command) (dispatcher : Dispatcher σ) :
    Aside (launch cmd dispatcher : Act σ _) :=
  (aside_flushFor cmd.name).bind fun _ => (Child.calm_spawn cmd).aside.bind fun spawned =>
    (calm_follow cmd spawned dispatcher).aside

theorem aside_dispatch_launched {cmd : Command} {dispatcher : Dispatcher σ}
    (hfound : dispatcher.builtins.get? cmd.name = none) (state : ShellState) :
    Aside (dispatcher.dispatch cmd state) := by
  unfold dispatch
  rw [hfound]
  exact (aside_launch cmd dispatcher).bind fun _ => writes_pure _

end Dispatcher

theorem Shell.aside_conclude {ρ : Type} (name : String) (result : Except ProcessError Status)
    (shell : Shell ρ σ) : Aside (Shell.conclude name result shell) := by
  cases result with
  | ok status => exact (calm_debug _ _).aside.bind fun _ => writes_pure _
  | error error =>
    exact (aside_warn _ _).bind fun _ => (aside_write rfl).bind fun _ => writes_pure _

/-- However often it was called before, all that a call writes is of this kind. -/
def Builtin.Writes (kind : Entry → Prop) (builtin : Builtin σ) : Prop :=
  ∀ calls cmd state, Act.Writes kind (builtin calls cmd state)

omit [Host σ] in
theorem Exit.calm : (Exit.builtin : Builtin σ).Writes fun entry => entry.isCalm = true := by
  intro calls cmd state
  unfold Exit.builtin
  cases cmd.args.head? with
  | none => exact writes_pure _
  | some argument =>
    cases hcode : code? argument with
    | none =>
      simp only [hcode]
      exact (calm_message _).bind fun _ => writes_pure _
    | some code =>
      simp only [hcode]
      exact writes_pure _

theorem ChangeDirectory.calm :
    (ChangeDirectory.builtin : Builtin σ).Writes fun entry => entry.isCalm = true := by
  intro calls cmd state
  refine (writes_view _).bind fun target => ?_
  cases target with
  | none => exact (calm_message _).bind fun _ => writes_pure _
  | some path =>
    refine (calm_ask _).bind fun result => ?_
    cases result with
    | error error => exact (calm_message _).bind fun _ => writes_pure _
    | ok _ => exact (calm_debug _ _).bind fun _ => writes_pure _

/-- The built-ins of a new shell tell of no job and warn of nothing. -/
theorem Builtins.calm_defaults : (Builtins.defaults : Builtins σ).All
    (Builtin.Writes fun entry => entry.isCalm = true) :=
  (Builtins.all_nothing.put "exit" Exit.calm).put "cd" ChangeDirectory.calm

/-- The built-ins of a new shell write aside. -/
theorem Builtins.aside_defaults : (Builtins.defaults : Builtins σ).All
    (Builtin.Writes fun entry => entry.isAside = true) :=
  fun name registration hfound calls cmd state =>
    Calm.aside (calm_defaults name registration hfound calls cmd state)

section

variable {kind : Entry → Prop}

/-- A dispatch writes what its built-ins may write, if this includes all that is written aside. -/
theorem Dispatcher.writes_dispatch (haside : ∀ entry, entry.isAside = true → kind entry)
    {dispatcher : Dispatcher σ} (h : dispatcher.builtins.All (Builtin.Writes kind))
    (cmd : Command) (state : ShellState) : Writes kind (dispatcher.dispatch cmd state) := by
  cases hfound : dispatcher.builtins.get? cmd.name with
  | none => exact (aside_dispatch_launched hfound state).writes haside
  | some registration =>
    unfold dispatch
    rw [hfound]
    have hcall : Writes kind (dispatcher.builtins.call registration cmd state) :=
      (h cmd.name registration hfound registration.calls cmd state).bind fun _ => writes_pure _
    exact ((calm_debug _ _).writes haside).bind fun _ => hcall.bind fun _ => writes_pure _

/-! ## Sessions -/

omit [Host σ] in
theorem Shell.aside_writeNotices (finished : List FinishedJob) :
    Aside (Shell.writeNotices finished : Act σ Unit) := by
  induction finished with
  | nil => exact writes_pure ()
  | cons f rest ih => exact (aside_write rfl).bind fun _ => ih

namespace Session

variable {session : Session σ}

theorem writes_obey (haside : ∀ entry, entry.isAside = true → kind entry)
    (h : session.dispatcher.builtins.All (Builtin.Writes kind)) (line : String) :
    Writes kind (obey line session) := by
  unfold obey
  cases Command.parse line with
  | error e => exact writes_pure _
  | ok cmd =>
    refine (Dispatcher.writes_dispatch haside h cmd session.state).bind fun dispatched => ?_
    cases dispatched.1 with
    | ok status => exact ((calm_debug _ _).writes haside).bind fun _ => writes_pure _
    | error error =>
      exact ((aside_warn _ _).writes haside).bind fun _ =>
        (writes_write (haside _ rfl)).bind fun _ => writes_pure _

theorem writes_depart (haside : ∀ entry, entry.isAside = true → kind entry)
    (h : session.dispatcher.builtins.All (Builtin.Writes kind)) :
    Writes kind (depart session) := by
  unfold depart
  cases hfound : session.dispatcher.builtins.get? "exit" with
  | none => exact writes_pure _
  | some registration =>
    have hcall : Writes kind (session.dispatcher.builtins.call registration
        ⟨"exit", "exit", [], false⟩ session.state) :=
      (h "exit" registration hfound _ _ _).bind fun _ => writes_pure _
    exact ((calm_debug _ _).writes haside).bind fun _ => hcall.bind fun _ =>
      ((calm_debug _ _).writes haside).bind fun _ => writes_pure _

end Session

end

end JobShell
