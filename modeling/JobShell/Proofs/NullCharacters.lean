import JobShell.Machine.Launch
import JobShell.Proofs.FailedCommand
import JobShell.Proofs.LineGrammar
import JobShell.Proofs.Routing

/-!
# Null characters

Taking the marker and the white space from a line takes no other character from it
(`Command.mem_arguments_iff`), so a null character in the line is one in a word.  Words without one
are read back from memory as they were laid down, whatever their number
(`LaunchPlan.words?_ofArgv`).  Hence a command is refused before anything is started exactly if its
line holds a null character, and any other child is given the words of its command
(`Dispatcher.null_characters_stop_launch`).
-/

namespace JobShell

/-! ## Characters of the words -/

namespace Text

theorem mem_words_iff {cs : List Char} {c : Char} (hsolid : isBlank c = false) :
    (∃ word ∈ words cs, c ∈ word) ↔ c ∈ cs := by
  rw [← List.mem_flatten, flatten_words, List.mem_filter, hsolid]
  simp

end Text

namespace Command

theorem mem_unmarked_iff {line text : List Char} {isBackground : Bool} {c : Char}
    (h : unmarked line = (text, isBackground)) (hsolid : Text.isBlank c = false)
    (hmarker : c ≠ backgroundMarker) : c ∈ text ↔ c ∈ line := by
  obtain ⟨-, hmarked, hbare⟩ := unmarked_eq h
  cases isBackground with
  | false => rw [hbare rfl]
  | true =>
    obtain ⟨after, hafter, rfl⟩ := hmarked rfl
    have hnot : c ∉ after := fun hc => by
      rw [hafter c hc] at hsolid
      cases hsolid
    simp [hmarker, hnot]

/-- The words hold each character of the line that is neither white space nor a marker. -/
theorem mem_arguments_iff {line : String} {cmd : Command} (hparse : parse line = .ok cmd) {c : Char}
    (hsolid : Text.isBlank c = false) (hmarker : c ≠ backgroundMarker) :
    (∃ word ∈ cmd.arguments, c ∈ word.toList) ↔ c ∈ line.toList := by
  obtain ⟨hunmarked, hwords⟩ := parse_eq_ok_iff.mp hparse
  rw [← mem_unmarked_iff hunmarked hsolid hmarker, ← Text.mem_words_iff hsolid, hwords]
  simp only [List.mem_map, exists_exists_and_eq_and]

end Command

theorem holdsNull_eq_true_iff {word : String} : holdsNull word = true ↔ '\x00' ∈ word.toList :=
  List.contains_iff_mem

/-- The first word of a command that holds a null character. -/
theorem find?_holdsNull_iff {words : List String} {word : String} :
    words.find? holdsNull = some word ↔ ∃ before after, words = before ++ word :: after ∧
      '\x00' ∈ word.toList ∧ ∀ earlier ∈ before, '\x00' ∉ earlier.toList := by
  simp only [List.find?_eq_some_iff_append, ← holdsNull_eq_true_iff, Bool.not_eq_true',
    Bool.not_eq_true]
  constructor
  · rintro ⟨hword, before, after, rfl, hbefore⟩
    exact ⟨before, after, rfl, hword, hbefore⟩
  · rintro ⟨before, after, rfl, hword, hbefore⟩
    exact ⟨hword, before, after, rfl, hbefore⟩

/-! ## Words in memory -/

namespace LaunchPlan

theorem beforeZero?_terminated {bytes : Bytes} (h : (0 : UInt8) ∉ bytes) :
    beforeZero? (terminated bytes) = some bytes := by
  induction bytes with
  | nil => rfl
  | cons byte rest ih =>
    obtain ⟨hbyte, hrest⟩ := List.ne_and_not_mem_of_not_mem_cons h
    have hlater : beforeZero? (terminated rest) = some rest := ih hrest
    unfold terminated at hlater ⊢
    rw [List.cons_append, beforeZero?, if_neg (Ne.symm hbyte), hlater]
    rfl

/-- The pointers to strings that stand behind others lead to these strings. -/
theorem follow?_pointers {plan : LaunchPlan} (front : List Bytes) {back : List Bytes}
    (hstrings : plan.strings = (front ++ back).map terminated)
    (hzero : ∀ bytes ∈ back, (0 : UInt8) ∉ bytes) :
    plan.follow? ((List.range' front.length back.length).map some ++ [none]) = some back := by
  induction back generalizing front with
  | nil => rfl
  | cons bytes back ih =>
    obtain ⟨hbytes, hback⟩ := List.forall_mem_cons.mp hzero
    have hstring : plan.string? front.length = some bytes := by
      unfold string?
      rw [hstrings, List.getElem?_map, List.getElem?_append_right (Nat.le_refl _), Nat.sub_self]
      exact beforeZero?_terminated hbytes
    -- the strings that come later stand one place further behind
    have hlater := ih (front ++ [bytes]) (by rw [hstrings, List.append_assoc]; rfl) hback
    rw [List.length_append, List.length_singleton] at hlater
    rw [List.length_cons, List.range'_succ, List.map_cons, List.cons_append, follow?, hstring,
      hlater]
    rfl

theorem zero_not_mem_ofString {word : String} (h : holdsNull word = false) :
    (0 : UInt8) ∉ Bytes.ofString word := by
  rw [Bytes.ofString_eq]
  intro hzero
  have hnull :=
    holdsNull_eq_true_iff.mpr ((Bytes.mem_encode_iff (c := '\x00') (by decide)).mp hzero)
  rw [h] at hnull
  cases hnull

section

variable (argv : Argv)

/-- The words that are read back are those that were laid down. -/
theorem words?_ofArgv : (ofArgv argv).words? = some (argv.words.map Bytes.ofString) := by
  have hstrings : (ofArgv argv).strings =
      ([] ++ argv.words.map Bytes.ofString).map terminated := by
    rw [List.nil_append, List.map_map]
    rfl
  have hread := follow?_pointers [] hstrings fun bytes hbytes => by
    obtain ⟨word, hword, rfl⟩ := List.mem_map.mp hbytes
    exact zero_not_mem_ofString (argv.noNull word hword)
  rw [List.length_map, List.length_nil, ← List.range_eq_range'] at hread
  exact hread

theorem program?_ofArgv : (ofArgv argv).program? = some (Bytes.ofString argv.name) :=
  beforeZero?_terminated (zero_not_mem_ofString (argv.noNull _ (List.mem_cons_self ..)))

end

end LaunchPlan

namespace Machine.Launch

/-- A child of the machine looks for the program by its name and with the words it was given, in
whatever way programs are looked for. -/
theorem work_eq (lookup : Bytes → List Bytes → Environment → Doing Unit) (argv : Argv)
    (env : Environment) :
    work lookup argv env = Doing.work (do
      lookup (Bytes.ofString argv.name) (argv.words.map Bytes.ofString) env
      let _ ← Doing.ask (.write 2 (Bytes.ofString (argv.name ++ ": command not found\n")))
      pure notFound) := by
  unfold work
  simp only [LaunchPlan.program?_ofArgv, LaunchPlan.words?_ofArgv]
  rfl

end Machine.Launch

/-- A child that is started on the words of a command is given a pointer to each of them and a null
pointer, finds the words there, and looks for the program by the name of the command. -/
theorem LaunchPlan.ofArgv_of_words {argv : Argv} {cmd : Command} (h : argv.words = cmd.arguments) :
    let plan := ofArgv argv
    plan.pointers = (List.range cmd.argumentCount).map some ++ [none] ∧
      plan.words? = some (cmd.arguments.map Bytes.ofString) ∧
      plan.program? = some (Bytes.ofString cmd.name) ∧
      plan.notFound = Bytes.ofString (cmd.name ++ ": command not found\n") ∧
      ∀ lookup env, Machine.Launch.work lookup argv env = Machine.Doing.work (do
        lookup (Bytes.ofString cmd.name) (cmd.arguments.map Bytes.ofString) env
        let _ ← Machine.Doing.ask (.write 2 plan.notFound)
        pure Machine.Launch.notFound) := by
  intro plan
  have hname : argv.name = cmd.name := (List.cons.inj h).1
  have hnotFound : plan.notFound = Bytes.ofString (cmd.name ++ ": command not found\n") := by
    rw [← hname]
    rfl
  have hpointers : plan.pointers = (List.range cmd.argumentCount).map some ++ [none] := by
    rw [Command.argumentCount, ← h]
    rfl
  have hprogram := program?_ofArgv argv
  have hwords := words?_ofArgv argv
  rw [hname] at hprogram
  rw [h] at hwords
  refine ⟨hpointers, hwords, hprogram, hnotFound, fun lookup env => ?_⟩
  rw [hnotFound, Machine.Launch.work_eq lookup argv, hname, h]

/-! ## A launch -/

/-- A wait does not fail on a word. -/
theorem WaitAnswer.verdict?_ne_invalidArgument (answer : WaitAnswer) (word : String) :
    answer.verdict? ≠ some (.error (.invalidArgument word)) := by
  cases answer with
  | failed errno =>
    unfold verdict?
    split <;> simp
  | _ => simp [verdict?]

namespace Dispatcher

variable {σ : Type} [Host σ]

/-- A launch is refused for a word and asks nothing, or it asks for one child on the words of the
command and is not refused for any of them. -/
theorem Launches.refused_or_asked {cmd : Command} {jobs later : JobTable} {asked : List Question}
    {result : Except ProcessError Status} (h : Launches cmd jobs asked result later) :
    (∃ word, cmd.arguments.find? holdsNull = some word ∧
      result = .error (.invalidArgument word) ∧ asked = []) ∨
    (∃ argv answer waits, argv.words = cmd.arguments ∧
      asked = .launched argv answer :: waits ∧ waits.filterMap Question.launch? = [] ∧
      ∀ word, result ≠ .error (.invalidArgument word)) := by
  cases h with
  | unpassable hword => exact Or.inl ⟨_, hword, rfl, rfl⟩
  | refused hwords errno => exact Or.inr ⟨_, _, [], hwords, rfl, rfl, nofun⟩
  | awaited hwords hfore pid hopen hlast =>
    refine Or.inr ⟨_, _, _, hwords, rfl, ?_, ?_⟩
    · rw [List.filterMap_map]
      exact List.filterMap_eq_nil_iff.mpr fun _ _ => rfl
    · rintro word rfl
      exact WaitAnswer.verdict?_ne_invalidArgument _ word hlast
  | tracked hwords hback pid started => exact Or.inr ⟨_, _, [], hwords, rfl, rfl, nofun⟩

/-- **A null character is stopped before anything is started.**  A command that is no built-in is
refused exactly if its line holds a null character, for the first of its words that holds one, and
then the system is asked to start no child.  For any other it is asked once; the child is given a
pointer to each word of the command and a null pointer behind them, the strings that it finds there
are the words byte for byte and in their order, and the first is the name of the program that is
looked for, however that is done. -/
theorem null_characters_stop_launch {line : String} {cmd : Command}
    (hparse : Command.parse line = .ok cmd) {dispatcher : Dispatcher (Recorded σ)}
    (hother : dispatcher.builtins.get? cmd.name = none) (state : ShellState) (host : Recorded σ) :
    let dispatched := dispatch cmd state dispatcher host
    ((∃ word, dispatched.value.1 = .error (.invalidArgument word)) ↔ '\x00' ∈ line.toList) ∧
    (∀ word, dispatched.value.1 = .error (.invalidArgument word) →
      (∃ before after, cmd.arguments = before ++ word :: after ∧ '\x00' ∈ word.toList ∧
        ∀ earlier ∈ before, '\x00' ∉ earlier.toList) ∧
      (∃ flushed, dispatched.state.record = host.record ++ [.flushed flushed]) ∧
      ∀ [ProcessHost σ], (ProcessHost.kernel dispatched.state).born =
        (ProcessHost.kernel host).born) ∧
    ('\x00' ∉ line.toList → ∃ flushed argv answer waits,
      dispatched.state.record =
        host.record ++ .flushed flushed :: .launched argv answer :: waits ∧
      waits.filterMap Question.launch? = [] ∧
      let plan := LaunchPlan.ofArgv argv
      plan.pointers = (List.range cmd.argumentCount).map some ++ [none] ∧
      plan.words? = some (cmd.arguments.map Bytes.ofString) ∧
      plan.program? = some (Bytes.ofString cmd.name) ∧
      plan.notFound = Bytes.ofString (cmd.name ++ ": command not found\n") ∧
      ∀ lookup env, Machine.Launch.work lookup argv env = Machine.Doing.work (do
        lookup (Bytes.ofString cmd.name) (cmd.arguments.map Bytes.ofString) env
        let _ ← Machine.Doing.ask (.write 2 plan.notFound)
        pure Machine.Launch.notFound)) := by
  intro dispatched
  have hnull : (∃ word ∈ cmd.arguments, holdsNull word = true) ↔ '\x00' ∈ line.toList := by
    simp only [holdsNull_eq_true_iff]
    exact Command.mem_arguments_iff hparse (by decide) (by decide)
  obtain ⟨hvalue, hstate⟩ := dispatch_launched hother state host
  have hended : dispatched.value.1 = (launch cmd dispatcher host).value.1 :=
    congrArg (·.1) hvalue
  obtain ⟨flushed, asked, hrecord, hlaunches⟩ := launches_launch cmd dispatcher host
  rw [← hended] at hlaunches
  rw [← hstate] at hrecord
  rcases hlaunches.refused_or_asked with
    ⟨word, hfound, hresult, rfl⟩ | ⟨argv, answer, waits, hwords, rfl, hwaits, hpassed⟩
  · have hline := hnull.mp ⟨word, List.mem_of_find?_eq_some hfound, List.find?_some hfound⟩
    refine ⟨iff_of_true ⟨word, hresult⟩ hline, fun other hother => ?_, fun h => absurd hline h⟩
    obtain rfl : word = other := by
      rw [hresult] at hother
      exact ProcessError.invalidArgument.inj (Except.error.inj hother)
    refine ⟨find?_holdsNull_iff.mp hfound, ⟨flushed, hrecord⟩, ?_⟩
    intro _
    rw [hended] at hresult
    have hborn := (launch_error_children hresult).2.1 nofun
    rw [← hstate] at hborn
    exact hborn
  · have hline : '\x00' ∉ line.toList := by
      rw [← hnull, ← hwords]
      rintro ⟨word, hword, hholds⟩
      rw [argv.noNull word hword] at hholds
      cases hholds
    refine ⟨iff_of_false (fun ⟨word, h⟩ => hpassed word h) hline,
      fun word h => absurd h (hpassed word), fun _ => ?_⟩
    exact ⟨flushed, argv, answer, waits, hrecord, hwaits, LaunchPlan.ofArgv_of_words hwords⟩

/-- A command whose last two words hold null characters. -/
def broken : Command := ⟨"echo x a\x00 \x00", "echo", ["x", "a\x00", "\x00"], false⟩

/-- The command with null characters is refused for the first word that has one, and the child of
another is given that one's words. -/
theorem null_characters_stop_launch_broken :
    (∃ word before after,
      (dispatch broken {} bare ⟨Simulation.single, []⟩).value.1 = .error (.invalidArgument word) ∧
      broken.arguments = before ++ word :: after ∧ '\x00' ∈ word.toList ∧
      ∀ earlier ∈ before, '\x00' ∉ earlier.toList) ∧
    ∃ flushed argv answer waits,
      (dispatch Simulation.sleeper {} bare ⟨Simulation.single, []⟩).state.record =
        .flushed flushed :: .launched argv answer :: waits ∧
      (LaunchPlan.ofArgv argv).words? = some [Bytes.ofString "sleep", Bytes.ofString "1"] := by
  have hbroken : Command.parse "echo x a\x00 \x00" = .ok broken := by cbv
  have hsleeper : Command.parse "sleep 1 &" = .ok Simulation.sleeper := by cbv
  obtain ⟨hrefused, hfirst, -⟩ := null_characters_stop_launch hbroken
    (show bare.builtins.get? broken.name = none from rfl) {} ⟨Simulation.single, []⟩
  obtain ⟨-, -, hgiven⟩ := null_characters_stop_launch hsleeper
    (show bare.builtins.get? Simulation.sleeper.name = none from rfl) {} ⟨Simulation.single, []⟩
  constructor
  · obtain ⟨word, hword⟩ := hrefused.mpr (by decide)
    obtain ⟨⟨before, after, hsplit⟩, -⟩ := hfirst word hword
    exact ⟨word, before, after, hword, hsplit⟩
  · obtain ⟨flushed, argv, answer, waits, hrecord, -, -, hwords, -⟩ := hgiven (by decide)
    exact ⟨flushed, argv, answer, waits, hrecord, hwords⟩

end Dispatcher

end JobShell
