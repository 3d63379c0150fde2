import JobShell.Proofs.Encoding
import JobShell.Proofs.Session

/-!
# Reading a stream to its end and beyond

A stream is cut behind each line feed in one way only (`segmented_iff`), and each read takes the
next segment, whatever it holds: a segment that is no text is answered by a failure, any other by
its line (`StreamReader.answer_text`).  So reading loses nothing and gives nothing twice, and lines
that are written with either terminator are read back (`StreamReader.readings_partition_input`).
-/

namespace JobShell

def carriageReturn : UInt8 := 13

/-! ## Segments -/

/-- The input cut behind each line feed. -/
inductive Segmented : List Bytes → Bytes → Prop
  | nil : Segmented [] []
  | last {rest : Bytes} (hne : rest ≠ []) (hopen : lineFeed ∉ rest) : Segmented [rest] rest
  | cons {body rest : Bytes} {more : List Bytes} (hbody : lineFeed ∉ body)
      (h : Segmented more rest) :
      Segmented ((body ++ [lineFeed]) :: more) (body ++ lineFeed :: rest)

theorem segments_append {body : Bytes} (hbody : lineFeed ∉ body) (rest : Bytes) :
    segments (body ++ lineFeed :: rest) = (body ++ [lineFeed]) :: segments rest := by
  induction body with
  | nil => exact segments_lineFeed rest
  | cons b body ih =>
    simp only [List.mem_cons, not_or] at hbody
    exact segments_cons_of_cons (Ne.symm hbody.1) (ih hbody.2)

theorem segments_of_not_mem {rest : Bytes} (hne : rest ≠ []) (hopen : lineFeed ∉ rest) :
    segments rest = [rest] := by
  induction rest with
  | nil => exact absurd rfl hne
  | cons b rest ih =>
    simp only [List.mem_cons, not_or] at hopen
    by_cases hrest : rest = []
    · subst hrest
      exact segments_cons_of_nil (Ne.symm hopen.1) rfl
    · exact segments_cons_of_cons (Ne.symm hopen.1) (ih hrest hopen.2)

theorem segmented_segments (input : Bytes) : Segmented (segments input) input := by
  induction input with
  | nil => exact Segmented.nil
  | cons b rest ih =>
    by_cases hb : b = lineFeed
    · subst hb
      rw [segments_lineFeed]
      exact Segmented.cons List.not_mem_nil ih
    · have hnot : ∀ {bytes : Bytes}, lineFeed ∉ bytes → lineFeed ∉ b :: bytes := by
        intro bytes hbytes
        exact List.not_mem_cons_of_ne_of_not_mem (Ne.symm hb) hbytes
      generalize hlines : segments rest = lines at ih
      cases ih with
      | nil =>
        rw [segments_cons_of_nil hb hlines]
        exact Segmented.last (List.cons_ne_nil b []) (hnot List.not_mem_nil)
      | last hne hopen =>
        rw [segments_cons_of_cons hb hlines]
        exact Segmented.last (List.cons_ne_nil b rest) (hnot hopen)
      | cons hbody h =>
        rw [segments_cons_of_cons hb hlines]
        exact Segmented.cons (hnot hbody) h

/-- The segments are the only way to cut the input behind each line feed. -/
theorem segmented_iff {lines : List Bytes} {input : Bytes} :
    Segmented lines input ↔ lines = segments input := by
  constructor
  · intro h
    induction h with
    | nil => rfl
    | last hne hopen => rw [segments_of_not_mem hne hopen]
    | cons hbody _ ih => rw [segments_append hbody, ih]
  · rintro rfl
    exact segmented_segments input

/-! ## The line of a segment -/

/-- A line with what ends it: a line feed, a carriage return and a line feed, or nothing. -/
inductive Ended (line : Bytes) : Bytes → Prop
  | returned : Ended line (line ++ [carriageReturn, lineFeed])
  | fed (h : line.getLast? ≠ some carriageReturn) : Ended line (line ++ [lineFeed])
  | unended (h : line.getLast? ≠ some lineFeed) : Ended line line

theorem withoutTerminator_returned (cs : List Char) :
    withoutTerminator (cs ++ ['\r', '\n']) = cs := by
  unfold withoutTerminator
  simp

theorem withoutTerminator_fed {cs : List Char} (h : cs.getLast? ≠ some '\r') :
    withoutTerminator (cs ++ ['\n']) = cs := by
  by_cases hcs : cs = []
  · subst hcs
    rfl
  · obtain ⟨before, c, rfl⟩ : ∃ before c, cs = before ++ [c] :=
      ⟨_, _, (List.dropLast_concat_getLast hcs).symm⟩
    have hc : c ≠ '\r' := by simpa using h
    unfold withoutTerminator
    simp [hc]

theorem withoutTerminator_unended {cs : List Char} (h : cs.getLast? ≠ some '\n') :
    withoutTerminator cs = cs := by
  by_cases hcs : cs = []
  · subst hcs
    rfl
  · obtain ⟨before, c, rfl⟩ : ∃ before c, cs = before ++ [c] :=
      ⟨_, _, (List.dropLast_concat_getLast hcs).symm⟩
    have hc : c ≠ '\n' := by simpa using h
    unfold withoutTerminator
    simp [hc]

open Bytes (encode)

theorem encode_lineFeed : encode ['\n'] = [lineFeed] := by decide

theorem encode_returned : encode ['\r', '\n'] = [carriageReturn, lineFeed] := by decide

/-- What is left of a text has the terminator behind it in the bytes too. -/
theorem ended_encode (cs : List Char) : Ended (encode (withoutTerminator cs)) (encode cs) := by
  have hreturn : ∀ {ds : List Char}, (encode ds).getLast? = some carriageReturn ↔
      ds.getLast? = some '\r' := Bytes.getLast?_encode_iff (c := '\r') (by decide)
  have hfeed : ∀ {ds : List Char}, (encode ds).getLast? = some lineFeed ↔
      ds.getLast? = some '\n' := Bytes.getLast?_encode_iff (c := '\n') (by decide)
  by_cases hlast : cs.getLast? = some '\n'
  · obtain ⟨before, rfl⟩ : ∃ before, cs = before ++ ['\n'] := List.getLast?_eq_some_iff.mp hlast
    by_cases hbefore : before.getLast? = some '\r'
    · obtain ⟨line, rfl⟩ : ∃ line, before = line ++ ['\r'] := List.getLast?_eq_some_iff.mp hbefore
      rw [List.append_assoc, List.singleton_append, withoutTerminator_returned,
        Bytes.encode_append, encode_returned]
      exact Ended.returned
    · rw [withoutTerminator_fed hbefore, Bytes.encode_append, encode_lineFeed]
      exact Ended.fed (fun h => hbefore (hreturn.mp h))
  · rw [withoutTerminator_unended hlast]
    exact Ended.unended (fun h => hlast (hfeed.mp h))

/-! ## Readings -/

/-- The sink has room for so many bytes more. -/
def Sink.Holds (sink : Sink) (count : Nat) : Prop := ∀ room, sink.room = some room → count ≤ room

theorem Sink.write_of_holds {sink : Sink} {bytes : Bytes} {more : Nat}
    (h : sink.Holds (bytes.length + more)) :
    (sink.write bytes).whole = true ∧ (sink.write bytes).sink.Holds more := by
  unfold Sink.write
  cases hroom : sink.room with
  | none => exact ⟨rfl, fun room hsome => by rw [hroom] at hsome; cases hsome⟩
  | some room =>
    have hle := h room hroom
    refine ⟨by simp only [decide_eq_true_eq]; omega, fun left hleft => ?_⟩
    simp only [Option.some.injEq] at hleft
    omega

/-- Lines one after the other, each ended in either way; the last may go without an end unless it is
empty. -/
inductive Ranged : List String → Bytes → Prop
  | nil : Ranged [] []
  | last {line : String} (hne : line ≠ "") : Ranged [line] (Bytes.ofString line)
  | fed {line : String} {lines : List String} {rest : Bytes} (h : Ranged lines rest) :
      Ranged (line :: lines) (Bytes.ofString line ++ lineFeed :: rest)
  | returned {line : String} {lines : List String} {rest : Bytes} (h : Ranged lines rest) :
      Ranged (line :: lines) (Bytes.ofString line ++ carriageReturn :: lineFeed :: rest)

namespace StreamReader

/-- The readings that come of prompts, one after the other. -/
def readings : List String → StreamReader → List (Reading StreamReader)
  | [], _ => []
  | prompt :: prompts, reader =>
    reader.read prompt :: readings prompts (reader.read prompt).rest

theorem length_readings (prompts : List String) (reader : StreamReader) :
    (readings prompts reader).length = prompts.length := by
  induction prompts generalizing reader with
  | nil => rfl
  | cons prompt prompts ih => exact congrArg (· + 1) (ih _)

/-- The answer to a read whose prompt is not written whole. -/
def refusal : ReadAnswer := .failed (.io .writeRefused)

/-- A read whose prompt fits takes what is next in the input; any other is refused and takes
nothing. -/
theorem read_eq (prompt : String) (input : Bytes) (sink : Sink) :
    let written := sink.write (Bytes.ofString prompt)
    read prompt ⟨input, sink⟩ =
      if written.whole then
        ⟨(Session.taken input).1, written.taken, ⟨(Session.taken input).2, written.sink⟩⟩
      else ⟨refusal, written.taken, ⟨input, written.sink⟩⟩ := by
  intro written
  have hread : read prompt ⟨input, sink⟩ =
      if !written.whole then ⟨refusal, written.taken, ⟨input, written.sink⟩⟩
      else if input.isEmpty then ⟨.closed, written.taken, ⟨input, written.sink⟩⟩
      else ⟨answer (cutLine input).1, written.taken, ⟨(cutLine input).2, written.sink⟩⟩ := rfl
  rw [hread]
  unfold Session.taken
  cases written.whole with
  | false => rfl
  | true => cases input <;> rfl

/-- A read whose prompt is shown takes the next segment, or meets the end of the input. -/
theorem read_of_holds {reader : StreamReader} {prompt : String} {more : Nat}
    (h : reader.prompts.Holds ((Bytes.ofString prompt).length + more)) :
    (reader.read prompt).answer = (Session.taken reader.input).1 ∧
      (reader.read prompt).rest.input = (Session.taken reader.input).2 ∧
      (reader.read prompt).rest.prompts.Holds more := by
  obtain ⟨hwhole, hmore⟩ := Sink.write_of_holds h
  obtain ⟨input, sink⟩ := reader
  rw [read_eq, if_pos hwhole]
  exact ⟨rfl, rfl, hmore⟩

/-- The answer to the read that takes this segment, or to one behind the last. -/
def answerOf : Option Bytes → ReadAnswer
  | some segment => answer segment
  | none => .closed

theorem taken_eq (input : Bytes) : Session.taken input =
    (answerOf (segments input).head?, ((segments input).drop 1).flatten) := by
  by_cases hne : input = []
  · subst hne
    rfl
  · rw [Session.taken_of_ne_nil hne, segments_eq_cons hne]
    simp only [List.head?_cons, List.drop_one, List.tail_cons, flatten_segments]
    rfl

theorem segments_taken (input : Bytes) :
    segments (Session.taken input).2 = (segments input).drop 1 := by
  by_cases hne : input = []
  · subst hne
    rfl
  · rw [Session.taken_of_ne_nil hne, segments_eq_cons hne, List.drop_one, List.tail_cons]

/-- The i-th reading takes the i-th segment. -/
theorem getElem?_readings {prompts : List String} {reader : StreamReader}
    (h : reader.prompts.Holds (prompts.flatMap Bytes.ofString).length) {i : Nat}
    {reading : Reading StreamReader}
    (hreading : (readings prompts reader)[i]? = some reading) :
    reading.answer = answerOf (segments reader.input)[i]? ∧
      reading.rest.input = ((segments reader.input).drop (i + 1)).flatten := by
  induction prompts generalizing reader i with
  | nil => cases hreading
  | cons prompt prompts ih =>
    rw [List.flatMap_cons, List.length_append] at h
    obtain ⟨hanswer, hrest, hmore⟩ := read_of_holds h
    cases i with
    | zero =>
      obtain rfl : reader.read prompt = reading := Option.some.inj hreading
      rw [hanswer, hrest, taken_eq, ← List.head?_eq_getElem?]
      exact ⟨rfl, rfl⟩
    | succ i =>
      have hlater := ih hmore hreading
      rwa [hrest, segments_taken, List.getElem?_drop, List.drop_drop, Nat.add_comm 1,
        Nat.add_comm 1] at hlater

/-- What the readings answer is what the segments are answered, and then that the input is
closed. -/
theorem answers_readings {prompts : List String} {reader : StreamReader}
    (h : reader.prompts.Holds (prompts.flatMap Bytes.ofString).length) :
    (readings prompts reader).map (·.answer) =
      ((segments reader.input).map answer ++
        List.replicate prompts.length ReadAnswer.closed).take prompts.length := by
  refine List.ext_getElem? fun i => ?_
  rw [List.getElem?_map]
  by_cases hi : i < prompts.length
  · have hlt : i < (readings prompts reader).length := by rwa [length_readings]
    rw [List.getElem?_eq_getElem hlt, Option.map_some,
      (getElem?_readings h (List.getElem?_eq_getElem hlt)).1, List.getElem?_take_of_lt hi]
    by_cases hcut : i < (segments reader.input).length
    · rw [List.getElem?_append_left (by simpa using hcut), List.getElem?_map,
        List.getElem?_eq_getElem hcut]
      rfl
    · rw [List.getElem?_eq_none (by omega), List.getElem?_append_right (by simpa using hcut),
        List.getElem?_replicate_of_lt (by rw [List.length_map]; omega)]
      rfl
  · rw [List.getElem?_eq_none (by rw [length_readings]; omega),
      List.getElem?_eq_none (by rw [List.length_take]; omega)]
    rfl

/-! ## The answer to a segment -/

theorem answer_ofString (text : String) : answer (Bytes.ofString text) =
    .line (String.ofList (withoutTerminator text.toList)) := by
  unfold answer
  rw [Bytes.text?_eq_some_iff.mpr rfl]

theorem answer_encode (cs : List Char) :
    answer (encode cs) = .line (String.ofList (withoutTerminator cs)) := by
  have htext := answer_ofString (String.ofList cs)
  rwa [Bytes.ofString_eq, String.toList_ofList] at htext

theorem answer_failed_iff {segment : Bytes} :
    (∃ error, answer segment = .failed (.io error)) ↔ ∀ text, Bytes.ofString text ≠ segment := by
  unfold answer
  cases htext : segment.text? with
  | none => exact iff_of_true ⟨_, rfl⟩ (Bytes.text?_eq_none_iff.mp htext)
  | some text =>
    refine iff_of_false (fun ⟨error, h⟩ => by cases h) fun h => ?_
    exact h text (Bytes.text?_eq_some_iff.mp htext)

/-- A text is answered with the line that it ends. -/
theorem answer_text (text : String) :
    ∃ line, answer (Bytes.ofString text) = .line line ∧
      Ended (Bytes.ofString line) (Bytes.ofString text) := by
  refine ⟨_, answer_ofString text, ?_⟩
  rw [Bytes.ofString_eq, Bytes.ofString_eq, String.toList_ofList]
  exact ended_encode _

section

variable {line : String} (hopen : '\n' ∉ line.toList)

include hopen

theorem lineFeed_not_mem : lineFeed ∉ Bytes.ofString line := by
  rw [Bytes.ofString_eq]
  exact fun h => hopen ((Bytes.mem_encode_iff (c := '\n') (by decide)).mp h)

theorem answer_unended : answer (Bytes.ofString line) = .line line := by
  rw [answer_ofString, withoutTerminator_unended fun h => hopen (List.mem_of_getLast? h),
    String.ofList_toList]

end

theorem answer_fed {line : String} (hline : line.toList.getLast? ≠ some '\r') :
    answer (Bytes.ofString line ++ [lineFeed]) = .line line := by
  rw [Bytes.ofString_eq, ← encode_lineFeed, ← Bytes.encode_append, answer_encode,
    withoutTerminator_fed hline, String.ofList_toList]

theorem answer_returned (line : String) :
    answer (Bytes.ofString line ++ [carriageReturn, lineFeed]) = .line line := by
  rw [Bytes.ofString_eq, ← encode_returned, ← Bytes.encode_append, answer_encode,
    withoutTerminator_returned, String.ofList_toList]

/-- Lines that are written one after the other are the answers to their segments. -/
theorem answers_ranged {lines : List String} {input : Bytes} (h : Ranged lines input)
    (hlines : ∀ line ∈ lines, '\n' ∉ line.toList ∧ line.toList.getLast? ≠ some '\r') :
    (segments input).map answer = lines.map .line := by
  induction h with
  | nil => rfl
  | @last line hne =>
    obtain ⟨hopen, -⟩ := hlines line (List.mem_singleton_self _)
    rw [segments_of_not_mem (Bytes.ofString_ne_nil hne) (lineFeed_not_mem hopen),
      List.map_singleton, answer_unended hopen, List.map_singleton]
  | @fed line lines rest _ ih =>
    obtain ⟨hline, hlater⟩ := List.forall_mem_cons.mp hlines
    rw [segments_append (lineFeed_not_mem hline.1), List.map_cons, answer_fed hline.2, ih hlater,
      List.map_cons]
  | @returned line lines rest _ ih =>
    obtain ⟨hline, hlater⟩ := List.forall_mem_cons.mp hlines
    have hbody : lineFeed ∉ Bytes.ofString line ++ [carriageReturn] := by
      simpa using And.intro (lineFeed_not_mem hline.1) (by decide : lineFeed ≠ carriageReturn)
    rw [List.append_cons, segments_append hbody, List.map_cons, List.append_assoc,
      List.singleton_append, answer_returned, ih hlater, List.map_cons]

/-- **Reading loses nothing and gives nothing twice.**  The input is cut behind each line feed in
one way only.  As long as the prompts can be written, the i-th reading takes the i-th segment and
leaves those behind it: a segment that is no text is answered by a failure, any other by the line
that it ends; behind the last segment the input is closed.  So lines that are written one after the
other, each ended in either way, are read back, and then no more. -/
theorem readings_partition_input {prompts : List String} {reader : StreamReader}
    (hroom : reader.prompts.Holds (prompts.flatMap Bytes.ofString).length) :
    let cut := segments reader.input
    (∀ parts, Segmented parts reader.input ↔ parts = cut) ∧
    (readings prompts reader).length = prompts.length ∧
    (∀ (i : Nat) (reading : Reading StreamReader), (readings prompts reader)[i]? = some reading →
      reading.rest.input = (cut.drop (i + 1)).flatten ∧
      (∀ segment, cut[i]? = some segment →
        ((∃ error, reading.answer = .failed (.io error)) ↔
          ∀ text, Bytes.ofString text ≠ segment) ∧
        ((∃ text, Bytes.ofString text = segment) →
          ∃ line, reading.answer = .line line ∧ Ended (Bytes.ofString line) segment)) ∧
      (cut[i]? = none → reading.answer = .closed)) ∧
    (∀ lines : List String,
      (∀ line ∈ lines, '\n' ∉ line.toList ∧ line.toList.getLast? ≠ some '\r') →
      Ranged lines reader.input →
      (readings prompts reader).map (·.answer) =
        (lines.map ReadAnswer.line ++ List.replicate prompts.length ReadAnswer.closed).take
          prompts.length) := by
  intro cut
  have hread : ∀ {i : Nat} {reading : Reading StreamReader},
      (readings prompts reader)[i]? = some reading → reading.answer = answerOf cut[i]? ∧
        reading.rest.input = (cut.drop (i + 1)).flatten := getElem?_readings hroom
  refine ⟨fun parts => segmented_iff, length_readings prompts reader, fun i reading hreading => ?_,
    fun lines hlines hranged => ?_⟩
  · obtain ⟨hanswer, hrest⟩ := hread hreading
    refine ⟨hrest, fun segment hsegment => ?_, fun hnone => ?_⟩
    · rw [hanswer, hsegment]
      refine ⟨answer_failed_iff, ?_⟩
      rintro ⟨text, rfl⟩
      exact answer_text text
    · rw [hanswer, hnone]
      rfl
  · rw [answers_readings hroom, answers_ranged hranged hlines]

/-- A stream with either terminator, an empty line and an unended one, and room for four prompts of
two bytes each. -/
def mixed : StreamReader where
  input := Bytes.ofString "ls" ++ carriageReturn :: lineFeed ::
    (Bytes.ofString "" ++ lineFeed :: Bytes.ofString "exit 3")
  prompts := { room := some 8 }

theorem readings_partition_input_mixed :
    (readings ["$ ", "$ ", "$ ", "$ "] mixed).map (·.answer) =
      [.line "ls", .line "", .line "exit 3", .closed] := by
  have hroom : mixed.prompts.Holds (["$ ", "$ ", "$ ", "$ "].flatMap Bytes.ofString).length := by
    intro room hsome
    obtain rfl := Option.some.inj hsome
    decide +kernel
  have hranged : Ranged ["ls", "", "exit 3"] mixed.input :=
    Ranged.returned (Ranged.fed (Ranged.last (by decide)))
  obtain ⟨-, -, -, hlines⟩ := readings_partition_input hroom
  exact hlines _ (by decide) hranged

/-- Bytes that are no text fail one read and not the next. -/
example : (readings ["", "", ""] { input := [255, lineFeed, 97] }).map (·.answer) =
    [.failed (.io .invalidText), .line "a", .closed] := by decide +kernel

end StreamReader

end JobShell
