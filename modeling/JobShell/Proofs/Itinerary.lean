import JobShell.Proofs.Marks
import JobShell.Proofs.ReadLoop

/-!
# The course of a session depends on its input only

With the usual built-ins nothing but its input decides what a session reads, dispatches and echoes,
when it ends and with which code.  `itinerary` says it from the segments of the input alone.  A
session that is under way (`Session.Underway`) takes one round as the answer of its reader has it,
whatever its host (`Session.Underway.step`), and so it follows its itinerary
(`Session.Underway.run`).  Hence two sessions over one input have the same course
(`Shell.course_depends_on_input`).
-/

namespace JobShell

namespace Mark

def answer? : Mark → Option ReadAnswer
  | read answer => some answer
  | dispatched _ => none

def command? : Mark → Option Command
  | read _ => none
  | dispatched cmd => some cmd

end Mark

/-- What was read, in order. -/
def answersOf (marks : List Mark) : List ReadAnswer := marks.filterMap Mark.answer?

/-- What was dispatched, in order. -/
def commandsOf (marks : List Mark) : List Command := marks.filterMap Mark.command?

/-- What was written to the shell's output. -/
def echoed (written : List Entry) : Bytes := written.flatMap Console.echoBytes

theorem echoed_append (first later : List Entry) :
    echoed (first ++ later) = echoed first ++ echoed later :=
  List.flatMap_append

theorem echoed_eq_nil_iff {written : List Entry} :
    echoed written = [] ↔ ∀ entry ∈ written, Console.echoBytes entry = [] :=
  List.flatMap_eq_nil_iff

theorem Entry.echoBytes_of_isAside (entry : Entry) (h : entry.isAside = true) :
    Console.echoBytes entry = [] := by
  cases entry with
  | echo bytes => cases h
  | _ => rfl

theorem Act.Aside.echoed {σ α : Type} {act : Act σ α} (h : Aside act) (host : σ) :
    echoed (act host).written = [] :=
  echoed_eq_nil_iff.mpr (h.writes Entry.echoBytes_of_isAside host)

/-! ## What the input demands -/

/-- The code with which a command ends a session, if it does. -/
def Command.exits? (cmd : Command) : Option Int :=
  if cmd.name = "exit" then
    match cmd.args.head? with
    | none => some 0
    | some argument => Exit.code? argument
  else none

/-- The code that a command names as an `exit` with a number. -/
def Command.namedCode? (cmd : Command) : Option Int :=
  if cmd.name = "exit" then cmd.args.head?.bind Exit.code? else none

theorem Command.namedCode?_getD (cmd : Command) :
    cmd.namedCode?.getD 0 = cmd.exits?.getD 0 := by
  unfold namedCode? exits?
  split
  · cases cmd.args.head? <;> rfl
  · rfl

namespace ReadAnswer

/-- The commands that are dispatched on an answer. -/
def commands : ReadAnswer → List Command
  | line text => (Command.parse text).toOption.toList
  | closed => [Shell.exitOrder]
  | failed _ => []

/-- The code with which an answer ends a session, if it does. -/
def stop? : ReadAnswer → Option Int
  | line text => (Command.parse text).toOption.bind Command.exits?
  | closed => some 0
  | failed _ => some 0

def echo : ReadAnswer → Bytes
  | closed => Shell.farewell
  | _ => []

def marks (answer : ReadAnswer) : List Mark := .read answer :: answer.commands.map .dispatched

end ReadAnswer

structure Itinerary where
  marks : List Mark
  /-- The segments that are left. -/
  unread : List Bytes
  echo : Bytes
  code : Int

/-- The course that the segments of the input demand. -/
def itinerary : List Bytes → Itinerary
  | [] => ⟨ReadAnswer.closed.marks, [], ReadAnswer.closed.echo, 0⟩
  | segment :: rest =>
    let answer := StreamReader.answer segment
    match answer.stop? with
    | some code => ⟨answer.marks, rest, answer.echo, code⟩
    | none =>
      let later := itinerary rest
      { later with marks := answer.marks ++ later.marks, echo := answer.echo ++ later.echo }

theorem itinerary_of_stop {segment : Bytes} {code : Int} (rest : List Bytes)
    (h : (StreamReader.answer segment).stop? = some code) : itinerary (segment :: rest) =
      ⟨(StreamReader.answer segment).marks, rest, (StreamReader.answer segment).echo, code⟩ := by
  rw [itinerary]
  simp only [h]

theorem itinerary_of_go {segment : Bytes} (rest : List Bytes)
    (h : (StreamReader.answer segment).stop? = none) : itinerary (segment :: rest) =
      { itinerary rest with
        marks := (StreamReader.answer segment).marks ++ (itinerary rest).marks
        echo := (StreamReader.answer segment).echo ++ (itinerary rest).echo } := by
  rw [itinerary]
  simp only [h]

theorem commandsOf_append (first later : List Mark) :
    commandsOf (first ++ later) = commandsOf first ++ commandsOf later :=
  List.filterMap_append

theorem answersOf_append (first later : List Mark) :
    answersOf (first ++ later) = answersOf first ++ answersOf later :=
  List.filterMap_append

namespace ReadAnswer

theorem commandsOf_marks (answer : ReadAnswer) : commandsOf answer.marks = answer.commands := by
  have hcommand : (Mark.command? ∘ Mark.dispatched) = some := rfl
  unfold commandsOf marks
  rw [List.filterMap_cons_none rfl, List.filterMap_map, hcommand, List.filterMap_some]

theorem answersOf_marks (answer : ReadAnswer) : answersOf answer.marks = [answer] := by
  have hanswer : (Mark.answer? ∘ Mark.dispatched) = fun _ => none := rfl
  have hread : Mark.answer? (.read answer) = some answer := rfl
  unfold answersOf marks
  rw [List.filterMap_cons_some hread, List.filterMap_map, hanswer,
    List.filterMap_eq_nil_iff.mpr fun _ _ => rfl]

/-- An answer ends a session with the code that its command names, or with 0. -/
theorem stop?_getD (answer : ReadAnswer) : answer.stop?.getD 0 =
    (answer.commands.getLast?.bind Command.namedCode?).getD 0 := by
  cases answer with
  | line text =>
    simp only [stop?, commands]
    cases Command.parse text with
    | error e => rfl
    | ok cmd => exact cmd.namedCode?_getD.symm
  | closed => rfl
  | failed error => rfl

end ReadAnswer

/-- The code is the one that the last command names, or 0. -/
theorem code_itinerary (lines : List Bytes) : (itinerary lines).code =
    ((commandsOf (itinerary lines).marks).getLast?.bind Command.namedCode?).getD 0 := by
  induction lines with
  | nil => rfl
  | cons segment rest ih =>
    have hanswer := (StreamReader.answer segment).stop?_getD
    cases hstop : (StreamReader.answer segment).stop? with
    | some code =>
      rw [itinerary_of_stop rest hstop]
      rw [hstop] at hanswer
      rw [ReadAnswer.commandsOf_marks, ← hanswer]
      rfl
    | none =>
      rw [itinerary_of_go rest hstop]
      show (itinerary rest).code = _
      rw [commandsOf_append, ReadAnswer.commandsOf_marks, List.getLast?_append, ih]
      -- where nothing was dispatched later, the command of this line names no code either
      cases (commandsOf (itinerary rest).marks).getLast? with
      | some cmd => rfl
      | none =>
        rw [hstop] at hanswer
        exact hanswer

/-- The segments that are not left are those that were read. -/
theorem answersOf_itinerary (lines : List Bytes) : ∃ read,
    lines = read ++ (itinerary lines).unread ∧
      (answersOf (itinerary lines).marks = read.map StreamReader.answer ∨
        (itinerary lines).unread = [] ∧
          answersOf (itinerary lines).marks = read.map StreamReader.answer ++ [.closed]) := by
  induction lines with
  | nil => exact ⟨[], rfl, Or.inr ⟨rfl, rfl⟩⟩
  | cons segment rest ih =>
    cases hstop : (StreamReader.answer segment).stop? with
    | some code =>
      rw [itinerary_of_stop rest hstop]
      exact ⟨[segment], rfl, Or.inl (ReadAnswer.answersOf_marks _)⟩
    | none =>
      obtain ⟨read, hlines, hanswers⟩ := ih
      have hmarks : answersOf (itinerary (segment :: rest)).marks =
          StreamReader.answer segment :: answersOf (itinerary rest).marks := by
        rw [itinerary_of_go rest hstop, answersOf_append, ReadAnswer.answersOf_marks]
        rfl
      have hunread : (itinerary (segment :: rest)).unread = (itinerary rest).unread := by
        rw [itinerary_of_go rest hstop]
      rw [hmarks, hunread]
      refine ⟨segment :: read, congrArg (segment :: ·) hlines, ?_⟩
      rcases hanswers with hanswers | ⟨hend, hanswers⟩
      · exact Or.inl (by rw [hanswers]; rfl)
      · exact Or.inr ⟨hend, by rw [hanswers]; rfl⟩

/-! ## The usual built-ins -/

namespace Builtins

variable {σ : Type} [Host σ]

/-- These are the built-ins of a new shell, which may have been called. -/
def Usual (builtins : Builtins σ) : Prop :=
  ∀ name, builtins.handler? name = (defaults : Builtins σ).handler? name

theorem usual_defaults : (defaults : Builtins σ).Usual := fun _ => rfl

theorem handler?_defaults (name : String) : (defaults : Builtins σ).handler? name =
    if name = "cd" then some ChangeDirectory.builtin
    else if name = "exit" then some Exit.builtin
    else none := by
  unfold defaults register
  by_cases hcd : name = "cd"
  · rw [if_pos hcd, hcd, handler?_put_self]
  · rw [if_neg hcd, handler?_put_of_ne _ hcd]
    by_cases hexit : name = "exit"
    · rw [if_pos hexit, hexit, handler?_put_self]
    · rw [if_neg hexit, handler?_put_of_ne _ hexit]
      rfl

theorem Usual.get?_exit {builtins : Builtins σ} (h : builtins.Usual) :
    ∃ registration, builtins.get? "exit" = some registration := by
  have hhandler := h "exit"
  rw [handler?_defaults] at hhandler
  obtain ⟨registration, hfound, -⟩ := Option.map_eq_some_iff.mp hhandler
  exact ⟨registration, hfound⟩

theorem Usual.all {builtins : Builtins σ} (h : builtins.Usual) {kind : Builtin σ → Prop}
    (hkind : (defaults : Builtins σ).All kind) : builtins.All kind := by
  intro name registration hfound
  have hhandler := h name
  unfold handler? at hhandler
  rw [hfound] at hhandler
  obtain ⟨usual, husual, heq⟩ := Option.map_eq_some_iff.mp hhandler.symm
  have hsame : usual.handler = registration.handler := heq
  rw [← hsame]
  exact hkind name usual husual

/-- Counting a call leaves the built-ins the usual ones. -/
theorem Usual.count {builtins : Builtins σ} (h : builtins.Usual) {name : String}
    {registration : Registration σ} (hfound : builtins.get? name = some registration)
    (calls : Nat) : (builtins.put name { registration with calls }).Usual := by
  intro other
  rw [handler?_count hfound, h other]

end Builtins

/-- The usual `cd` asks nothing of the state, however it fares. -/
theorem ChangeDirectory.requests_builtin {σ : Type} [Host σ] (calls : Nat) (cmd : Command)
    (state : ShellState) (host : σ) : (builtin calls cmd state host).value.requests = [] := by
  unfold builtin
  rw [Act.bind_value, Act.view_value, Act.view_state]
  cases target? cmd host with
  | none => rfl
  | some path =>
    simp only [Act.bind_value, Act.ask_value, Act.ask_state]
    cases (Host.changeDirectory path host).value <;> rfl

/-- What the usual `exit` asks of the state is decided by its command. -/
theorem Exit.requests_builtin {σ : Type} (calls : Nat) (cmd : Command) (state : ShellState)
    (host : σ) : (builtin calls cmd state host).value.requests =
      match cmd.args.head? with
      | none => [.exit]
      | some argument => match code? argument with
        | some code => [.exitWith code]
        | none => [] := by
  unfold builtin
  cases cmd.args.head? with
  | none => rfl
  | some argument => cases hcode : code? argument <;> simp only [hcode] <;> rfl

/-! ## Sessions with the usual built-ins -/

namespace Session

variable {σ : Type} [Host σ]

/-- With the usual built-ins, and an exit with this code requested or none at all. -/
structure Stands (session : Session σ) (stop? : Option Int) : Prop where
  usual : session.dispatcher.builtins.Usual
  exits : session.state.shouldExit = stop?.isSome
  code : session.state.exitCode = stop?.getD 0

abbrev Underway (session : Session σ) : Prop := session.Stands none

variable {session : Session σ}

/-- The requests of the usual `exit` end a session as its command does. -/
theorem Underway.applyAll (h : session.Underway) {cmd : Command} (hname : cmd.name = "exit")
    {requests : List ShellState.Request} (hrequests : requests = match cmd.args.head? with
      | none => [.exit]
      | some argument => match Exit.code? argument with
        | some code => [.exitWith code]
        | none => []) :
    (session.state.applyAll requests).shouldExit = cmd.exits?.isSome ∧
      (session.state.applyAll requests).exitCode = cmd.exits?.getD 0 := by
  unfold Command.exits?
  rw [if_pos hname, hrequests]
  cases cmd.args.head? with
  | none => exact ⟨rfl, h.code⟩
  | some argument =>
    cases hcode : Exit.code? argument with
    | some code =>
      simp only [hcode]
      exact ⟨rfl, rfl⟩
    | none =>
      simp only [hcode]
      exact ⟨h.exits, h.code⟩

/-- A dispatch ends a session if and as its command does. -/
theorem Underway.dispatch (h : session.Underway) (cmd : Command) (host : σ) :
    let dispatched := (session.dispatcher.dispatch cmd session.state host).value
    Stands ⟨dispatched.2.1, dispatched.2.2⟩ cmd.exits? := by
  intro dispatched
  have hhandler := h.usual cmd.name
  rw [Builtins.handler?_defaults] at hhandler
  unfold Builtins.handler? at hhandler
  cases hfound : session.dispatcher.builtins.get? cmd.name with
  | none =>
    have hname : cmd.name ≠ "exit" := by
      intro hname
      rw [hfound, hname] at hhandler
      cases hhandler
    have hgo : cmd.exits? = none := if_neg hname
    have hdispatched : dispatched = _ :=
      (Dispatcher.dispatch_launched hfound session.state host).1
    rw [hdispatched, hgo]
    refine ⟨?_, h.exits, h.code⟩
    show (Dispatcher.launch cmd session.dispatcher host).value.2.builtins.Usual
    rw [Dispatcher.builtins_launch]
    exact h.usual
  | some registration =>
    obtain ⟨reply, hreply, hvalue, -⟩ :=
      Dispatcher.dispatch_called hfound session.state host
    have hdispatched : dispatched = _ := hvalue
    have husual := h.usual.count hfound (registration.calls + 1)
    rw [hfound] at hhandler
    have hsame : some registration.handler = _ := hhandler
    rw [hdispatched]
    by_cases hcd : cmd.name = "cd"
    · have hgo : cmd.exits? = none := if_neg (by rw [hcd]; decide)
      rw [if_pos hcd, Option.some.injEq] at hsame
      have hrequests : reply.value.requests = [] := by
        rw [hreply, hsame]
        exact ChangeDirectory.requests_builtin _ _ _ _
      rw [hrequests, hgo]
      exact ⟨husual, h.exits, h.code⟩
    · rw [if_neg hcd] at hsame
      by_cases hexit : cmd.name = "exit"
      · rw [if_pos hexit, Option.some.injEq] at hsame
        have hrequests := Exit.requests_builtin registration.calls cmd session.state host
        rw [← hsame, ← hreply] at hrequests
        obtain ⟨hexits, hcode⟩ := h.applyAll hexit hrequests
        exact ⟨husual, hexits, hcode⟩
      · rw [if_neg hexit] at hsame
        cases hsame

theorem Underway.obey (h : session.Underway) (line : String) (host : σ) :
    (Session.obey line session host).value.Stands
      ((Command.parse line).toOption.bind Command.exits?) := by
  unfold Session.obey
  cases Command.parse line with
  | error e => exact h
  | ok cmd =>
    have hdispatched := h.dispatch cmd host
    rw [Act.bind_value]
    cases (session.dispatcher.dispatch cmd session.state host).value.1 with
    | ok status => exact ⟨hdispatched.usual, hdispatched.exits, hdispatched.code⟩
    | error error => exact hdispatched

theorem Stands.requestExit {code? : Option Int} (h : session.Stands code?) :
    session.requestExit.Stands (some (code?.getD 0)) := ⟨h.usual, rfl, h.code⟩

theorem Underway.close (h : session.Underway) (host : σ) :
    (Session.close session host).value.Stands (some 0) := by
  obtain ⟨registration, hfound⟩ := h.usual.get?_exit
  have hobeyed := h.obey Shell.exitCommand host
  rw [← depart_eq_obey hfound, Shell.parse_exitCommand] at hobeyed
  exact hobeyed.requestExit

/-- Closing a session echoes `exit` and nothing else. -/
theorem Underway.echoed_close (h : session.Underway) (host : σ) :
    echoed (Session.close session host).written = Shell.farewell := by
  have hdepart : Act.Aside (depart session) :=
    writes_depart (fun _ h => h) (h.usual.all Builtins.aside_defaults)
  have hecho : echoed [.echo Shell.farewell] = Shell.farewell := List.append_nil _
  have hclose : (Session.close session host).written =
      .echo Shell.farewell :: ((depart session host).written ++ []) := rfl
  rw [hclose, List.append_nil, ← List.singleton_append, echoed_append, hecho, hdepart.echoed,
    List.append_nil]

/-- An answer is responded to as it demands, whatever the host. -/
theorem Underway.respond (h : session.Underway) (answer : ReadAnswer) (flags : Flags)
    (input : Bytes) (host : σ) :
    let responded := Shell.respond answer (session.shell flags input) host
    (∃ after : Session σ, responded.value = (.ok (), after.shell flags input) ∧
      after.Stands answer.stop?) ∧
    prompts responded.written = 0 ∧ echoed responded.written = answer.echo := by
  cases answer with
  | line line =>
    have hobey : Act.Aside (Session.obey line session) :=
      writes_obey (fun _ h => h) (h.usual.all Builtins.aside_defaults) line
    simp only [line_shell, Act.bind_apply, Act.pure_apply, List.append_nil]
    exact ⟨⟨_, rfl, h.obey line host⟩, hobey.prompts host, hobey.echoed host⟩
  | closed =>
    simp only [close_shell, Act.bind_apply, Act.pure_apply, List.append_nil]
    exact ⟨⟨_, rfl, h.close host⟩,
      prompts_close (h.usual.all Builtins.promptless_defaults) host, h.echoed_close host⟩
  | failed error =>
    exact ⟨⟨_, rfl, h.requestExit⟩, rfl, rfl⟩

/-! ## Rounds -/

theorem Underway.prompted (h : session.Underway) (quiet : Bool) (host : σ) :
    (Session.prompted quiet session host).value.Underway := by
  cases quiet <;> exact ⟨h.usual, h.exits, h.code⟩

/-- Prompting echoes nothing. -/
theorem echoed_prompted (quiet : Bool) (session : Session σ) (host : σ) :
    echoed (Session.prompted quiet session host).written = [] := by
  have hprompted : Act.Writes (fun entry => Console.echoBytes entry = [])
      (Session.prompted quiet session) := by
    refine ((Dispatcher.aside_reapFinished _).writes Entry.echoBytes_of_isAside).bind
      fun reaped => ?_
    have hprompt : Act.Writes (fun entry => Console.echoBytes entry = []) (do
        let prompt ← Act.view Shell.currentPrompt
        Act.write (.prompt (Bytes.ofString prompt))
        pure ({ session with dispatcher := reaped.2 } : Session σ) : Act σ _) :=
      (Act.writes_view _).bind fun _ =>
        Act.Writes.bind (Act.writes_write (by rfl)) fun _ => Act.writes_pure _
    cases quiet with
    | true => exact hprompt
    | false =>
      exact ((Shell.aside_writeNotices _).writes Entry.echoBytes_of_isAside).bind fun _ => hprompt
  exact echoed_eq_nil_iff.mpr (hprompted host)

/-- A session under way is ordered what its answer orders. -/
theorem Underway.orders (h : session.Underway) (answer : ReadAnswer) (flags : Flags)
    (input : Bytes) : Shell.orders answer (session.shell flags input) = answer.commands := by
  cases answer with
  | line line => rfl
  | closed =>
    obtain ⟨registration, hfound⟩ := h.usual.get?_exit
    have hexit :
        (session.shell flags input).dispatcher.builtins.isBuiltin Shell.exitCommand = true :=
      congrArg Option.isSome hfound
    have hwhole : ((session.shell flags input).out.write Shell.farewell).whole = true := rfl
    simp only [Shell.orders, hexit, hwhole, Bool.and_self, if_true]
    rfl
  | failed error => rfl

/-- One round reads, responds to the answer, and leaves its marks. -/
theorem Underway.step (h : session.Underway) (flags : Flags) (input : Bytes) (host : σ) :
    let stepped := Shell.step (session.shell flags input) host
    (∃ after : Session σ, stepped.value = (.ok (), after.shell flags (taken input).2) ∧
      after.Stands (taken input).1.stop?) ∧
    prompts stepped.written = 1 ∧ echoed stepped.written = (taken input).1.echo ∧
    (Shell.markedStep (session.shell flags input)).marks host = (taken input).1.marks := by
  intro stepped
  have hreading : (session.shell flags input).reading host =
      ⟨(taken input).1, _, { input := (taken input).2 }⟩ := read_input _ _
  obtain ⟨hafter, hprompts, hechoed⟩ :=
    (h.prompted (flags.isSet .quiet) host).respond (taken input).1 flags (taken input).2
      (Session.prompted (flags.isSet .quiet) session host).state
  have hstepped : stepped = _ := congrFun (step_shell flags input session) host
  rw [Act.bind_apply] at hstepped
  rw [hstepped]
  refine ⟨hafter, ?_, ?_, ?_⟩
  · rw [prompts_append, prompts_prompted, hprompts]
  · rw [echoed_append, echoed_prompted, hechoed]
    rfl
  · rw [Shell.marks_markedStep, hreading, h.orders]
    rfl

/-! ## Runs -/

/-- An answer that ends the session is the last of its itinerary. -/
theorem itinerary_taken_of_stop {input : Bytes} {code : Int}
    (hstop : (taken input).1.stop? = some code) : itinerary (segments input) =
      ⟨(taken input).1.marks, segments (taken input).2, (taken input).1.echo, code⟩ := by
  by_cases hinput : input = []
  · rw [hinput, taken_nil] at hstop ⊢
    cases hstop
    rfl
  · rw [taken_of_ne_nil hinput] at hstop ⊢
    rw [segments_eq_cons hinput]
    exact itinerary_of_stop _ hstop

/-- After any other answer the itinerary goes on with the segments behind it. -/
theorem itinerary_taken_of_go {input : Bytes} (hgo : (taken input).1.stop? = none) :
    (segments (taken input).2).length < (segments input).length ∧
      itinerary (segments input) = { itinerary (segments (taken input).2) with
        marks := (taken input).1.marks ++ (itinerary (segments (taken input).2)).marks
        echo := (taken input).1.echo ++ (itinerary (segments (taken input).2)).echo } := by
  by_cases hinput : input = []
  · rw [hinput, taken_nil] at hgo
    cases hgo
  · rw [taken_of_ne_nil hinput] at hgo ⊢
    rw [segments_eq_cons hinput]
    exact ⟨Nat.lt_succ_self _, itinerary_of_go _ hgo⟩

/-- Once an exit is requested no round is made. -/
theorem Stands.runWithin {code : Int} (h : session.Stands (some code)) (rounds : Nat)
    (flags : Flags) (input : Bytes) (host : σ) :
    let ran := Shell.runWithin rounds (session.shell flags input) host
    ran.value = some (.ok code, session.shell flags input) ∧ prompts ran.written = 0 ∧
      echoed ran.written = [] ∧
      (Shell.markedRunWithin rounds (session.shell flags input)).marks host = [] := by
  intro ran
  have hexit : (session.shell flags input).state.shouldExit = true := h.exits
  have hcode : session.state.exitCode = code := h.code
  have hran : ran = _ := congrFun (Shell.runWithin_of_shouldExit hexit rounds) host
  rw [hran, finish_shell, ← hcode]
  exact ⟨rfl, rfl, rfl, Shell.marks_of_shouldExit hexit rounds host⟩

/-- A session under way follows its itinerary, whatever the host. -/
theorem Underway.run (h : session.Underway) {rounds : Nat} {input : Bytes}
    (hrounds : (segments input).length < rounds) (flags : Flags) (host : σ) :
    let ran := Shell.runWithin rounds (session.shell flags input) host
    let course := itinerary (segments input)
    (∃ after : Session σ,
      ran.value = some (.ok course.code, after.shell flags course.unread.flatten)) ∧
    prompts ran.written = (answersOf course.marks).length ∧ echoed ran.written = course.echo ∧
    (Shell.markedRunWithin rounds (session.shell flags input)).marks host = course.marks := by
  induction rounds generalizing session input host with
  | zero => cases hrounds
  | succ rounds ih =>
    obtain ⟨⟨after, hvalue, hafter⟩, hprompts, hechoed, hmarks⟩ := h.step flags input host
    have hgo : (session.shell flags input).state.shouldExit = false := h.exits
    have hmarked := Shell.marks_markedRunWithin rounds hgo (congrArg (·.1) hvalue)
    rw [hmarks, hvalue] at hmarked
    rw [Shell.runWithin_of_step_ok hgo hvalue, hmarked]
    simp only [prompts_append, echoed_append, hprompts, hechoed]
    cases hstop : (taken input).1.stop? with
    | some code =>
      rw [hstop] at hafter
      obtain ⟨hended, hnone, hsilent, hunmarked⟩ := hafter.runWithin rounds flags (taken input).2
        (Shell.step (session.shell flags input) host).state
      rw [itinerary_taken_of_stop hstop, hended, hnone, hsilent, hunmarked,
        ReadAnswer.answersOf_marks, flatten_segments]
      exact ⟨⟨after, rfl⟩, rfl, List.append_nil _, List.append_nil _⟩
    | none =>
      obtain ⟨hshorter, hcourse⟩ := itinerary_taken_of_go hstop
      rw [hstop] at hafter
      obtain ⟨hended, hcount, hsaid, hmarkedLater⟩ := ih hafter
        (Nat.lt_of_lt_of_le hshorter (Nat.le_of_lt_succ hrounds))
        (Shell.step (session.shell flags input) host).state
      rw [hcourse, hcount, hsaid, hmarkedLater, answersOf_append, ReadAnswer.answersOf_marks,
        List.length_append]
      exact ⟨hended, rfl, rfl, rfl⟩

end Session

namespace Shell

variable {σ τ : Type} [Host σ] [Host τ]

/-- A new shell, but for the jobs that it may have already. -/
def begun (flags : Flags) (input : Bytes) (jobs : JobTable) : Shell StreamReader σ :=
  { (Shell.new flags { input } : Shell StreamReader σ) with
    dispatcher := { builtins := .defaults, jobs } }

/-- A run of a new shell follows the itinerary of its input. -/
theorem run_begun (flags : Flags) (input : Bytes) (jobs : JobTable) (host : σ) :
    let shell : Shell StreamReader σ := begun flags input jobs
    let ran := shell.run host
    let course := itinerary (segments input)
    ran.value.1 = .ok course.code ∧ ran.value.2.reader = { input := course.unread.flatten } ∧
      prompts ran.written = (answersOf course.marks).length ∧
      echoed ran.written = course.echo ∧ shell.marks host = course.marks := by
  intro shell ran course
  have hunderway : Session.Underway
      ({ dispatcher := { builtins := .defaults, jobs } } : Session σ) :=
    ⟨Builtins.usual_defaults, rfl, rfl⟩
  have hrounds : (segments input).length < roundsLeft shell :=
    Nat.lt_succ_of_le (length_segments_le input)
  obtain ⟨⟨after, hvalue⟩, hprompts, hechoed, hmarks⟩ := hunderway.run hrounds flags host
  have hran : ran = ⟨_, _, _⟩ := run_of_runWithin hvalue
  rw [hran]
  exact ⟨rfl, rfl, hprompts, hechoed, hmarks⟩

/-- **With the usual built-ins the course of a session depends on its input only.**  Two shells read
the same input, on hosts that answer as they like and under any flags.  Both read the same segments
and dispatch the same commands in the same order, leave the same input unread, write as many prompts
and the same bytes to their output, and return the same code: the number that the last command
dispatched names as an `exit`, or 0. -/
theorem course_depends_on_input (input : Bytes) (flags flags' : Flags) (jobs jobs' : JobTable)
    (host : σ) (other : τ) :
    let shell : Shell StreamReader σ := begun flags input jobs
    let twin : Shell StreamReader τ := begun flags' input jobs'
    let marks := shell.marks host
    let code := ((commandsOf marks).getLast?.bind Command.namedCode?).getD 0
    twin.marks other = marks ∧
      (∃ read unread, segments input = read ++ unread ∧
        (shell.run host).value.2.reader = { input := unread.flatten } ∧
        (twin.run other).value.2.reader = { input := unread.flatten } ∧
        (answersOf marks = read.map StreamReader.answer ∨
          unread = [] ∧ answersOf marks = read.map StreamReader.answer ++ [.closed])) ∧
      prompts (shell.run host).written = (answersOf marks).length ∧
      prompts (twin.run other).written = (answersOf marks).length ∧
      echoed (twin.run other).written = echoed (shell.run host).written ∧
      (shell.run host).value.1 = .ok code ∧ (twin.run other).value.1 = .ok code := by
  intro shell twin marks code
  obtain ⟨hvalue, hreader, hprompts, hechoed, hmarks⟩ := run_begun flags input jobs host
  obtain ⟨hvalue', hreader', hprompts', hechoed', hmarks'⟩ := run_begun flags' input jobs' other
  have hcourse : marks = (itinerary (segments input)).marks := hmarks
  have hcode : code = (itinerary (segments input)).code := by
    rw [code_itinerary, ← hcourse]
  obtain ⟨read, hread, hanswers⟩ := answersOf_itinerary (segments input)
  rw [hcourse, hcode]
  exact ⟨hmarks', ⟨read, _, hread, hreader, hreader', hanswers⟩, hprompts, hprompts',
    hechoed'.trans hechoed.symm, hvalue, hvalue'⟩

end Shell

end JobShell
