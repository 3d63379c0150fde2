import JobShell.Proofs.Accounting
import JobShell.Proofs.Calls
import JobShell.Proofs.Visible

/-!
# A quiet shell only leaves out notices

A session is held twice, once by a shell that is quiet and once by one that is not.  What a call
gives back, the shell it leaves but for the option, and the host come out the same; of the two
journals the louder one has, right before the prompt of each round, one notice for each job that the
round collected, and nothing else besides (`Announced`).  The jobs of a round are collected in order
of their numbers, which is the order of the table (`JobTable.Numbered`).
-/

namespace JobShell

/-! ## Journals with notices -/

/-- The first journal is the second with what was collected told of: each collection right before a
prompt, one notice for each job. -/
inductive Announced : List (List FinishedJob) → List Entry → List Entry → Prop
  | nil : Announced [] [] []
  | entry {collected : List (List FinishedJob)} {told kept : List Entry} (entry : Entry) :
      Announced collected told kept → Announced collected (entry :: told) (entry :: kept)
  | round {collected : List (List FinishedJob)} {told kept : List Entry}
      (finished : List FinishedJob) (shown : Bytes) : Announced collected told kept →
      Announced (finished :: collected) (finished.map .notice ++ .prompt shown :: told)
        (.prompt shown :: kept)

namespace Announced

variable {collected collected' : List (List FinishedJob)} {told told' kept kept' : List Entry}

theorem refl (journal : List Entry) : Announced [] journal journal := by
  induction journal with
  | nil => exact .nil
  | cons entry rest ih => exact .entry entry ih

theorem append (h : Announced collected told kept) (h' : Announced collected' told' kept') :
    Announced (collected ++ collected') (told ++ told') (kept ++ kept') := by
  induction h with
  | nil => exact h'
  | entry entry h ih => exact .entry entry ih
  | round finished shown h ih =>
    rw [List.append_assoc]
    exact .round finished shown ih

/-- What notices and prompts have no part in is the same. -/
theorem flatMap_eq {α : Type} (f : Entry → List α) (hf : ∀ finished, f (.notice finished) = [])
    (h : Announced collected told kept) : told.flatMap f = kept.flatMap f := by
  induction h with
  | nil => rfl
  | entry entry h ih => rw [List.flatMap_cons, List.flatMap_cons, ih]
  | round finished shown h ih =>
    have hnotices : (finished.map Entry.notice).flatMap f = [] := by
      rw [List.flatMap_map]
      exact List.flatMap_eq_nil_iff.mpr fun job _ => hf job
    rw [List.flatMap_append, hnotices, List.nil_append, List.flatMap_cons, List.flatMap_cons, ih]

/-- Once the shell has been ended nothing more is told, and the children are seen alike. -/
theorem visible (h : Announced collected told kept) :
    ∃ seen, seen <+: collected ∧ (endOf? kept = none → seen = collected) ∧
      Announced seen (visible told) (visible kept) := by
  induction h with
  | nil => exact ⟨[], List.prefix_rfl, fun _ => rfl, .nil⟩
  | @entry collected told kept entry h ih =>
    by_cases hended : ∃ signal, entry = .ended signal
    · obtain ⟨signal, rfl⟩ := hended
      -- What is left of either journal is what the children write, and no notice or prompt is.
      have hchildren : told.filter Entry.isChild = kept.filter Entry.isChild := by
        rw [← List.filterMap_eq_filter, List.filterMap_eq_flatMap_toList,
          List.filterMap_eq_flatMap_toList]
        exact h.flatMap_eq _ fun _ => rfl
      refine ⟨[], List.nil_prefix, fun hend => absurd hend (Option.some_ne_none signal), ?_⟩
      rw [visible_ended, visible_ended, hchildren]
      exact refl _
    · obtain ⟨seen, hprefix, hall, hseen⟩ := ih
      have hgoes : ∀ signal, entry ≠ .ended signal := fun signal h => hended ⟨signal, h⟩
      refine ⟨seen, hprefix, fun hend => hall ((endOf?_cons hgoes _).symm.trans hend), ?_⟩
      rw [visible_cons hgoes, visible_cons hgoes]
      exact .entry entry hseen
  | round finished shown h ih =>
    obtain ⟨seen, hprefix, hall, hseen⟩ := ih
    refine ⟨finished :: seen, (List.prefix_cons_inj finished).mpr hprefix,
      fun hend => congrArg _ (hall hend), ?_⟩
    rw [visible_notices]
    exact .round finished shown hseen

/-- What is gathered of the second journal falls into pieces, one behind each collection; in what is
gathered of the first the notices stand between them. -/
theorem pieces {α : Type} (f : Entry → List α) (h : Announced collected told kept) :
    ∃ (first : List α) (parts : List (List FinishedJob × List α)), parts.map (·.1) = collected ∧
      kept.flatMap f = first ++ parts.flatMap (·.2) ∧
      told.flatMap f = first ++ parts.flatMap fun part =>
        (part.1.flatMap fun finished => f (.notice finished)) ++ part.2 := by
  induction h with
  | nil => exact ⟨[], [], rfl, rfl, rfl⟩
  | entry entry h ih =>
    obtain ⟨first, parts, hparts, hkept, htold⟩ := ih
    refine ⟨f entry ++ first, parts, hparts, ?_, ?_⟩
    · rw [List.flatMap_cons, hkept, List.append_assoc]
    · rw [List.flatMap_cons, htold, List.append_assoc]
  | round finished shown h ih =>
    obtain ⟨first, parts, hparts, hkept, htold⟩ := ih
    refine ⟨[], (finished, f (.prompt shown) ++ first) :: parts, congrArg _ hparts, ?_, ?_⟩
    · rw [List.flatMap_cons, hkept, List.flatMap_cons, List.nil_append, List.append_assoc]
    · rw [List.flatMap_append, List.flatMap_map, List.flatMap_cons, htold, List.flatMap_cons,
        List.nil_append, List.append_assoc, List.append_assoc]

end Announced

/-! ## Numbered jobs -/

namespace JobTable

/-- The jobs stand in order of their numbers, which are below the next. -/
structure Numbered (table : JobTable) : Prop where
  sorted : table.jobs.Pairwise (·.id < ·.id)
  below : ∀ job ∈ table.jobs, job.id < table.nextId

theorem numbered_new : Numbered {} := ⟨List.Pairwise.nil, fun _ h => absurd h List.not_mem_nil⟩

variable {σ : Type} [Host σ] {table : JobTable}

theorem Numbered.track (h : Numbered table) (pid : Pid) (command : String) (host : σ) :
    Numbered (table.track pid command host).value.2 := by
  rw [track_value]
  refine ⟨List.pairwise_append.mpr ⟨h.sorted, List.pairwise_singleton _ _,
    fun job hjob other hother => ?_⟩, fun job hjob => ?_⟩
  · rw [List.mem_singleton.mp hother]
    exact h.below job hjob
  · rcases List.mem_append.mp hjob with hjob | hjob
    · exact Nat.lt_succ_of_lt (h.below job hjob)
    · rw [List.mem_singleton.mp hjob]
      exact Nat.lt_succ_self _

/-- A poll keeps the order, and what it collects is in that order. -/
theorem Numbered.poll (h : Numbered table) (host : σ) :
    Numbered (table.poll host).value.2 ∧
      (table.poll host).value.1.Pairwise fun f g => f.job.id < g.job.id := by
  obtain ⟨host', -, ⟨hvalue, -⟩ | ⟨hvalue, -⟩⟩ := poll_cases table host
  · rw [hvalue]
    exact ⟨h, List.Pairwise.nil⟩
  · rw [hvalue]
    have hsub := keptOf_sublist (table.jobs.zip (answers table.jobs host'))
    rw [map_fst_asked, ← jobs_reap] at hsub
    exact ⟨⟨h.sorted.sublist hsub, fun job hjob => h.below job (hsub.subset hjob)⟩,
      sorted_reap h.sorted host'⟩

end JobTable

namespace Shell

variable {ρ σ ω : Type} [Host σ]

/-- The jobs of the shell stand in order of their numbers. -/
def Numbered (shell : Shell ρ σ ω) : Prop := shell.dispatcher.jobs.Numbered

theorem Numbered.execute {shell : Shell ρ σ ω} (cmd : Command) (host : σ) (h : Numbered shell) :
    Numbered (execute cmd shell host).value.2 := by
  cases hfound : shell.dispatcher.builtins.get? cmd.name with
  | some registration =>
    rw [execute_called hfound]
    exact h
  | none =>
    rw [execute_launched hfound]
    show (Dispatcher.launch cmd shell.dispatcher host).value.2.jobs.Numbered
    rcases Dispatcher.launch_value_cases cmd shell.dispatcher host with
      ⟨error, -, hvalue⟩ | ⟨pid, -, ⟨-, hvalue⟩ | ⟨-, hvalue⟩⟩
    · rw [hvalue]
      exact h
    · rw [hvalue]
      exact JobTable.Numbered.track h pid cmd.rawText _
    · rw [hvalue]
      exact h

theorem kept_numbered : Kept (Numbered (ρ := ρ) (σ := σ) (ω := ω)) where
  execute cmd host h := h.execute cmd host
  report host h := by
    rw [value_reportFinishedJobs]
    exact (JobTable.Numbered.poll h host).1
  moved _ _ h := h
  requestExit h := h
  install host h := by
    obtain ⟨signalDriven, hinstalled⟩ := value_installSignalHandlers _ host
    rw [hinstalled]
    exact ⟨h.sorted, h.below⟩

/-! ## Telling of the finished jobs -/

/-- The jobs that a round collects. -/
def collects (shell : Shell ρ σ ω) (host : σ) : List FinishedJob :=
  (shell.dispatcher.reapFinished host).value.1

omit [Host σ] in
theorem writeNotices_apply (finished : List FinishedJob) (host : σ) :
    writeNotices finished host = ⟨(), finished.map .notice, host⟩ := by
  induction finished with
  | nil => rfl
  | cons f rest ih =>
    rw [writeNotices, Act.bind_apply, Act.write_state, ih]
    rfl

/-- The finished jobs are collected whether they are told of or not. -/
theorem reportFinishedJobs_apply (shell : Shell ρ σ ω) (host : σ) :
    let reaped := shell.dispatcher.reapFinished host
    reportFinishedJobs shell host = ⟨{ shell with dispatcher := reaped.value.2 },
      reaped.written ++ (if shell.isQuiet then [] else (shell.collects host).map .notice),
      reaped.state⟩ := by
  unfold reportFinishedJobs collects
  cases shell.isQuiet with
  | true =>
    simp only [if_true, Act.bind_apply, Act.pure_apply, List.append_nil]
  | false =>
    simp only [Bool.false_eq_true, if_false, Act.bind_apply, Act.pure_apply, List.append_nil,
      writeNotices_apply]

/-! ## The same shell with other options -/

def withFlags (shell : Shell ρ σ ω) (flags : Flags) : Shell ρ σ ω := { shell with flags }

/-- The same outcome with other options in the shell. -/
def flagged {α : Type} (flags : Flags) (outcome : Outcome Entry σ (α × Shell ρ σ ω)) :
    Outcome Entry σ (α × Shell ρ σ ω) :=
  ⟨(outcome.value.1, outcome.value.2.withFlags flags), outcome.written, outcome.state⟩

section

variable (shell : Shell ρ σ ω) (flags : Flags) (host : σ)

theorem execute_withFlags (cmd : Command) :
    execute cmd (shell.withFlags flags) host = flagged flags (execute cmd shell host) := by
  have hdispatch : (shell.withFlags flags).dispatcher.dispatch cmd (shell.withFlags flags).state =
      shell.dispatcher.dispatch cmd shell.state := rfl
  unfold execute
  rw [hdispatch]
  simp only [flagged, Act.bind_apply]
  cases (shell.dispatcher.dispatch cmd shell.state host).value.1 <;> rfl

theorem executeLine_withFlags (line : String) :
    executeLine line (shell.withFlags flags) host =
      flagged flags (executeLine line shell host) := by
  unfold executeLine
  cases Command.parse line with
  | error e => rfl
  | ok cmd => exact execute_withFlags shell flags host cmd

theorem runCommand_withFlags (line : String) :
    runCommand line (shell.withFlags flags) host = flagged flags (runCommand line shell host) := by
  unfold runCommand
  split
  · rfl
  · simp only [Act.bind_apply, executeLine_withFlags]
    rfl

theorem installSignalHandlers_withFlags :
    installSignalHandlers (shell.withFlags flags) host =
      flagged flags (installSignalHandlers shell host) := by
  unfold installSignalHandlers
  simp only [flagged, Act.bind_apply, Act.ask_value]
  cases (Host.catchInterrupts host).value <;> rfl

theorem leave_withFlags : leave (shell.withFlags flags) host =
    ⟨(leave shell host).value.withFlags flags, (leave shell host).written,
      (leave shell host).state⟩ := by
  have hbuiltins : (shell.withFlags flags).dispatcher.builtins = shell.dispatcher.builtins := rfl
  unfold leave
  rw [hbuiltins]
  split
  · simp only [Act.bind_apply, executeLine_withFlags]
    rfl
  · rfl

theorem respond_withFlags [Writer ω] (answer : ReadAnswer) :
    respond answer (shell.withFlags flags) host = flagged flags (respond answer shell host) := by
  cases answer with
  | line line =>
    simp only [respond]
    split
    · rfl
    · simp only [Act.bind_apply, executeLine_withFlags]
      rfl
  | closed =>
    have hechoed : echoExit (shell.withFlags flags) host =
        flagged flags (echoExit shell host) := rfl
    simp only [respond, Act.bind_apply, hechoed, flagged]
    cases (echoExit shell host).value.1 with
    | error error => rfl
    | ok _ =>
      simp only [leaveAfter, Act.bind_apply, leave_withFlags]
      rfl
  | failed error => rfl

end

/-! ## A loud shell and a quiet one -/

/-- The second outcome is the first but for the options of the shell, and the first journal tells
besides of what was collected. -/
structure Hushed {α : Type} (flags : Flags) (collected : List (List FinishedJob))
    (told kept : Outcome Entry σ (α × Shell ρ σ ω)) : Prop where
  value : kept.value = (told.value.1, told.value.2.withFlags flags)
  state : kept.state = told.state
  journal : Announced collected told.written kept.written

omit [Host σ] in
theorem hushed_flagged {α : Type} (flags : Flags) (told : Outcome Entry σ (α × Shell ρ σ ω)) :
    Hushed flags [] told (flagged flags told) := ⟨rfl, rfl, Announced.refl _⟩

variable [LineReader ρ] [Writer ω] {shell : Shell ρ σ ω} {flags : Flags}

theorem step_hushed (hloud : shell.isQuiet = false) (hquiet : flags.isSet .quiet = true)
    (host : σ) : Hushed flags [shell.collects host] (step shell host)
      (step (shell.withFlags flags) host) := by
  let reaped := shell.dispatcher.reapFinished host
  let left : Shell ρ σ ω := { shell with dispatcher := reaped.value.2 }
  have htold : reportFinishedJobs shell host =
      ⟨left, reaped.written ++ (shell.collects host).map .notice, reaped.state⟩ := by
    simp only [reportFinishedJobs_apply, hloud]
    rfl
  have hisQuiet : (shell.withFlags flags).isQuiet = true := hquiet
  have hkept : reportFinishedJobs (shell.withFlags flags) host =
      ⟨left.withFlags flags, reaped.written ++ [], reaped.state⟩ := by
    simp only [reportFinishedJobs_apply, hisQuiet]
    rfl
  -- The notices are written past the host, so both shells read at the same point of it.
  have hreading : (shell.withFlags flags).reading host = shell.reading host := by
    unfold reading
    rw [htold, hkept]
    rfl
  have hmoved : (left.withFlags flags).moved (shell.reading host).rest shell.out =
      (left.moved (shell.reading host).rest shell.out).withFlags flags := rfl
  have hout : (shell.withFlags flags).out = shell.out := rfl
  rw [step_eq, step_eq, hreading, htold, hkept, hout]
  simp only [hmoved, respond_withFlags]
  refine ⟨rfl, rfl, ?_⟩
  show Announced _ (_ ++ .prompt _ :: _) (_ ++ .prompt _ :: _)
  rw [List.append_assoc, List.append_nil]
  exact (Announced.refl reaped.written).append (.round _ _ (Announced.refl _))

omit [LineReader ρ] [Writer ω] in
/-- No call changes whether a shell is quiet. -/
theorem kept_isQuiet (quiet : Bool) : Kept fun shell : Shell ρ σ ω => shell.isQuiet = quiet where
  execute {shell} cmd host h :=
    (congrArg (·.value.2.isQuiet) (execute_withFlags shell shell.flags host cmd)).trans h
  report host h := by
    rw [reportFinishedJobs_apply]
    exact h
  moved _ _ h := h
  requestExit h := h
  install host h := by
    obtain ⟨signalDriven, hinstalled⟩ := value_installSignalHandlers _ host
    rw [hinstalled]
    exact h

/-- What the rounds of a run collect. -/
def collectsAll (shell : Shell ρ σ ω) (host : σ) : List (List FinishedJob) :=
  (shell.rounds host).map fun round => round.1.collects round.2

theorem run_hushed (hloud : shell.isQuiet = false) (hquiet : flags.isSet .quiet = true)
    (host : σ) : (shell.withFlags flags).collectsAll host = shell.collectsAll host ∧
      Hushed flags (shell.collectsAll host) (run shell host)
        (run (shell.withFlags flags) host) := by
  unfold collectsAll
  induction shell, host using run_induction with
  | exit shell host hexit =>
    have hexit' : (shell.withFlags flags).state.shouldExit = true := hexit
    rw [rounds_of_shouldExit hexit, rounds_of_shouldExit hexit', run_of_shouldExit hexit,
      run_of_shouldExit hexit']
    exact ⟨rfl, hushed_flagged flags (finish shell host)⟩
  | error shell host error hgo hstep =>
    have hgo' : (shell.withFlags flags).state.shouldExit = false := hgo
    have hushed := step_hushed hloud hquiet host
    have hstep' : (step (shell.withFlags flags) host).value.1 = .error error := by
      rw [hushed.value, hstep]
    rw [rounds_of_step_error hgo hstep, rounds_of_step_error hgo' hstep',
      run_of_step_error hgo hstep, run_of_step_error hgo' hstep']
    exact ⟨rfl, by rw [hushed.value], hushed.state, hushed.journal⟩
  | go shell host hgo hstep ih =>
    have hgo' : (shell.withFlags flags).state.shouldExit = false := hgo
    have hushed := step_hushed hloud hquiet host
    have hstep' : (step (shell.withFlags flags) host).value.1 = .ok () := by
      rw [hushed.value, hstep]
    obtain ⟨hcollected, hlater⟩ := ih ((kept_isQuiet false).step hloud host)
    rw [rounds_of_step_ok hgo hstep, rounds_of_step_ok hgo' hstep', run_of_step_ok hgo hstep,
      run_of_step_ok hgo' hstep', hushed.value, hushed.state, List.map_cons, List.map_cons]
    exact ⟨congrArg _ hcollected, hlater.value, hlater.state,
      hushed.journal.append hlater.journal⟩

/-- What a call collects, round by round. -/
def collected : Call → Shell ρ σ ω → σ → List (List FinishedJob)
  | .step, shell, host => [shell.collects host]
  | .run, shell, host => shell.collectsAll host
  | _, _, _ => []

/-- What a sequence of calls collects, round by round. -/
def collections : List Call → Shell ρ σ ω → σ → List (List FinishedJob)
  | [], _, _ => []
  | first :: rest, shell, host =>
    collected first shell host ++
      collections rest (call first shell host).value.2 (call first shell host).state

omit [LineReader ρ] [Writer ω] [Host σ] in
/-- Outcomes stay alike under another name for what they give back. -/
theorem Hushed.give {α β : Type} (told kept : Act σ (α × Shell ρ σ ω)) {host : σ}
    {collected : List (List FinishedJob)} (h : Hushed flags collected (told host) (kept host))
    (name : α → β) : Hushed flags collected
      ((do let given ← told; pure (name given.1, given.2) : Act σ (β × Shell ρ σ ω)) host)
      ((do let given ← kept; pure (name given.1, given.2) : Act σ (β × Shell ρ σ ω)) host) := by
  simp only [Act.bind_apply, Act.pure_apply, List.append_nil]
  exact ⟨by rw [h.value], h.state, h.journal⟩

theorem call_hushed (hloud : shell.isQuiet = false) (hquiet : flags.isSet .quiet = true)
    (asked : Call) (host : σ) :
    collected asked (shell.withFlags flags) host = collected asked shell host ∧
      Hushed flags (collected asked shell host) (call asked shell host)
        (call asked (shell.withFlags flags) host) := by
  cases asked with
  | step => exact ⟨rfl, Hushed.give (step shell) (step _) (step_hushed hloud hquiet host) _⟩
  | run =>
    obtain ⟨hcollected, hushed⟩ := run_hushed hloud hquiet host
    exact ⟨hcollected, Hushed.give (run shell) (run _) hushed _⟩
  | executeLine line =>
    refine ⟨rfl, Hushed.give (executeLine line shell) (executeLine line _) ?_ _⟩
    rw [executeLine_withFlags]
    exact hushed_flagged flags _
  | runCommand line =>
    refine ⟨rfl, Hushed.give (runCommand line shell) (runCommand line _) ?_ _⟩
    rw [runCommand_withFlags]
    exact hushed_flagged flags _
  | requestExit => exact ⟨rfl, rfl, rfl, Announced.nil⟩
  | installSignalHandlers =>
    refine ⟨rfl, Hushed.give (installSignalHandlers shell) (installSignalHandlers _) ?_ _⟩
    rw [installSignalHandlers_withFlags]
    exact hushed_flagged flags _

/-- Whatever is asked of the two shells, they give back the same and are left alike. -/
theorem calls_hushed (hloud : shell.isQuiet = false) (hquiet : flags.isSet .quiet = true)
    (asked : List Call) (host : σ) :
    collections asked (shell.withFlags flags) host = collections asked shell host ∧
      Hushed flags (collections asked shell host) (calls asked shell host)
        (calls asked (shell.withFlags flags) host) := by
  induction asked generalizing shell host with
  | nil => exact ⟨rfl, rfl, rfl, Announced.nil⟩
  | cons first rest ih =>
    obtain ⟨hcollected, hushed⟩ := call_hushed hloud hquiet first host
    obtain ⟨hcollections, hlater⟩ := ih ((kept_isQuiet false).call hloud first host)
      (call first shell host).state
    unfold collections calls
    simp only [Act.bind_apply, Act.pure_apply, List.append_nil, hcollected, hushed.value,
      hushed.state]
    exact ⟨congrArg _ hcollections, by rw [hlater.value], hlater.state,
      hushed.journal.append hlater.journal⟩

/-- Each collection is in order of the numbers of its jobs. -/
theorem sorted_collections (h : Numbered shell) (asked : List Call) (host : σ) :
    ∀ finished ∈ collections asked shell host,
      finished.Pairwise fun f g => f.job.id < g.job.id := by
  have hcollects : ∀ {shell : Shell ρ σ ω} (host : σ), Numbered shell →
      (shell.collects host).Pairwise fun f g => f.job.id < g.job.id :=
    fun host h => (JobTable.Numbered.poll h host).2
  induction asked generalizing shell host with
  | nil => exact fun _ hfinished => absurd hfinished List.not_mem_nil
  | cons first rest ih =>
    intro finished hfinished
    rcases List.mem_append.mp hfinished with hfinished | hfinished
    · cases first with
      | step =>
        rw [List.mem_singleton.mp hfinished]
        exact hcollects host h
      | run =>
        obtain ⟨round, hround, rfl⟩ := List.mem_map.mp hfinished
        exact hcollects round.2 (kept_numbered.rounds h host round hround)
      | _ => exact absurd hfinished List.not_mem_nil
    · exact ih (kept_numbered.call h first host) _ finished hfinished

/-- **A quiet shell only leaves out notices.**  The same is asked of two new shells that differ in
whether they are quiet.  They give back the same and are left alike, in their state, jobs,
built-ins, reader and output, and so is the host; they collect the same jobs, in order of their
numbers in each round.  The journal of the loud one is that of the quiet one with the notices of
each round, one for each job it collected, right before its prompt.  So it is in what is seen of the
journals, where the prompts and the rest of the standard output are the same, and on the error
stream. -/
theorem quiet_only_silences (flags : Flags) (value : String) (builtins : Builtins σ) (reader : ρ)
    (out : ω) (host : σ) (asked : List Call) :
    let loud : Shell ρ σ ω :=
      (Shell.new { flags with quiet := none } reader out).withBuiltins builtins
    let quiet : Shell ρ σ ω := (Shell.new (flags.set .quiet value) reader out).withBuiltins builtins
    let told := calls asked loud host
    let kept := calls asked quiet host
    let collected := collections asked loud host
    kept.value = (told.value.1, { told.value.2 with flags := flags.set .quiet value }) ∧
    kept.state = told.state ∧
    collections asked quiet host = collected ∧
    (∀ finished ∈ collected, finished.Pairwise fun f g => f.job.id < g.job.id) ∧
    Announced collected told.written kept.written ∧
    told.written.flatMap Console.promptBytes = kept.written.flatMap Console.promptBytes ∧
    Console.stdout told.written = Console.stdout kept.written ∧
    ∃ seen, seen <+: collected ∧ (endOf? kept.written = none → seen = collected) ∧
      Announced seen (visible told.written) (visible kept.written) ∧
      ∀ console : Console, ∃ (first : Bytes) (parts : List (List FinishedJob × Bytes)),
        parts.map (·.1) = seen ∧
        console.stderr kept.written = first ++ parts.flatMap (·.2) ∧
        console.stderr told.written = first ++ parts.flatMap fun part =>
          (part.1.flatMap fun finished => console.errorBytes (.notice finished)) ++ part.2 := by
  intro loud quiet told kept collected
  have hloud : loud.isQuiet = false := rfl
  have hquiet : (flags.set .quiet value).isSet .quiet = true := rfl
  obtain ⟨hcollected, hushed⟩ := calls_hushed hloud hquiet asked host
  obtain ⟨seen, hprefix, hall, hseen⟩ := hushed.journal.visible
  exact ⟨hushed.value, hushed.state, hcollected,
    sorted_collections (show Numbered loud from JobTable.numbered_new) asked host, hushed.journal,
    hushed.journal.flatMap_eq _ fun _ => rfl, hseen.flatMap_eq _ fun _ => rfl,
    seen, hprefix, hall, hseen, fun console => hseen.pieces console.errorBytes⟩

end Shell

end JobShell
