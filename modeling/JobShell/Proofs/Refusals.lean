import JobShell.Proofs.Reads

/-!
# Prompts that are refused

A sink with room for so many bytes takes the prompts of a list up to that many bytes, whatever the
lengths of the prompts (`StreamReader.shown_readings`), and it makes no difference how few it takes
at a time (`Sink.pour_eq_write`).  A read is refused exactly if its prompt does not fit, and a read
that is refused leaves the input alone; so those that are not refused answer what as many reads
answer when there is room for every prompt (`StreamReader.refused_prompts_lose_no_input`).
-/

namespace JobShell

namespace Sink

/-- Writes until all bytes are taken or none are.  As long as there is room one byte at least is
taken at a time, and at most `most room` bytes more; no two writes find the same room, so the sink
may take as many as it likes at each. -/
def pour (most : Nat → Nat) (room : Nat) (bytes : Bytes) : Written :=
  let count := min (min bytes.length room) (most room + 1)
  if _hcount : count = 0 then ⟨[], bytes.isEmpty, ⟨some room⟩⟩
  else
    let later := pour most (room - count) (bytes.drop count)
    ⟨bytes.take count ++ later.taken, later.whole, later.sink⟩
termination_by bytes.length
decreasing_by
  rw [List.length_drop]
  omega

/-- However few bytes are taken at a time, in the end those are taken for which there is room. -/
theorem pour_eq_write (most : Nat → Nat) (room : Nat) (bytes : Bytes) :
    pour most room bytes = ({ room := some room } : Sink).write bytes := by
  fun_induction pour most room bytes with
  | case1 room bytes count hcount =>
    rcases (by omega : bytes.length = 0 ∨ room = 0) with hlength | rfl
    · obtain rfl := List.length_eq_zero_iff.mp hlength
      simp [write]
    · cases bytes <;> simp [write]
  | case2 room bytes count hcount later ih =>
    have hroom : room = count + (room - count) := by omega
    rw [show later = _ from ih]
    simp only [write, List.length_drop, Written.mk.injEq, mk.injEq, Option.some.injEq,
      decide_eq_decide]
    refine ⟨?_, by omega, by omega⟩
    calc bytes.take count ++ (bytes.drop count).take (room - count)
        = bytes.take (count + (room - count)) := List.take_add.symm
      _ = bytes.take room := by rw [← hroom]

end Sink

namespace StreamReader

theorem answer_ne_refusal (segment : Bytes) : answer segment ≠ refusal := by
  unfold answer refusal
  cases segment.text? with
  | some text => exact nofun
  | none => decide

theorem taken_ne_refusal (input : Bytes) : (Session.taken input).1 ≠ refusal := by
  unfold Session.taken
  cases input.isEmpty with
  | true => exact nofun
  | false => exact answer_ne_refusal _

section

variable (prompt : String) (input : Bytes) (room : Nat)

/-- The reader of an input with room for so many bytes of prompts. -/
abbrev within (input : Bytes) (room : Nat) : StreamReader := ⟨input, { room := some room }⟩

theorem read_within : read prompt (within input room) =
    if (Bytes.ofString prompt).length ≤ room then
      ⟨(Session.taken input).1, (Bytes.ofString prompt).take room,
        within (Session.taken input).2 (room - (Bytes.ofString prompt).length)⟩
    else ⟨refusal, (Bytes.ofString prompt).take room,
      within input (room - (Bytes.ofString prompt).length)⟩ := by
  rw [read_eq]
  simp only [Sink.write, decide_eq_true_eq]

theorem read_refused_iff : (read prompt (within input room)).answer = refusal ↔
    room < (Bytes.ofString prompt).length := by
  rw [read_within]
  split
  · exact iff_of_false (taken_ne_refusal input) (by omega)
  · exact iff_of_true rfl (by omega)

theorem shown_read :
    (read prompt (within input room)).shown = (Bytes.ofString prompt).take room := by
  rw [read_within]
  split <;> rfl

/-- What is left of the room does not depend on whether the prompt did fit. -/
theorem rest_read : (read prompt (within input room)).rest =
    within (if room < (Bytes.ofString prompt).length then input else (Session.taken input).2)
      (room - (Bytes.ofString prompt).length) := by
  rw [read_within]
  split
  · rw [if_neg (by omega)]
  · rw [if_pos (by omega)]

end

/-- The reader behind the reads with these prompts. -/
def advance : List String → StreamReader → StreamReader
  | [], reader => reader
  | prompt :: prompts, reader => advance prompts (reader.read prompt).rest

/-- The bytes of prompts, one behind the other. -/
def promptBytes (prompts : List String) : Bytes := prompts.flatMap Bytes.ofString

/-- What readings have shown of their prompts. -/
def shownBy (made : List (Reading StreamReader)) : Bytes := made.flatMap (·.shown)

/-- The readings that were not refused. -/
def unrefused (made : List (Reading StreamReader)) : List (Reading StreamReader) :=
  made.filter fun reading => decide (reading.answer ≠ refusal)

theorem promptBytes_cons (prompt : String) (prompts : List String) :
    promptBytes (prompt :: prompts) = Bytes.ofString prompt ++ promptBytes prompts :=
  List.flatMap_cons

theorem promptBytes_append (before after : List String) :
    promptBytes (before ++ after) = promptBytes before ++ promptBytes after :=
  List.flatMap_append

theorem shownBy_cons (reading : Reading StreamReader) (made : List (Reading StreamReader)) :
    shownBy (reading :: made) = reading.shown ++ shownBy made :=
  List.flatMap_cons

section

variable {reading : Reading StreamReader} {made : List (Reading StreamReader)}

theorem unrefused_cons_of_eq (h : reading.answer = refusal) :
    unrefused (reading :: made) = unrefused made :=
  List.filter_cons_of_neg (by simpa using h)

theorem unrefused_cons_of_ne (h : reading.answer ≠ refusal) :
    unrefused (reading :: made) = reading :: unrefused made :=
  List.filter_cons_of_pos (by simpa using h)

end

theorem readings_append (before after : List String) (reader : StreamReader) :
    readings (before ++ after) reader =
      readings before reader ++ readings after (advance before reader) := by
  induction before generalizing reader with
  | nil => rfl
  | cons prompt before ih => exact congrArg (_ :: ·) (ih _)

/-- The room is used up by the prompts, whether they did fit or not. -/
theorem room_advance (prompts : List String) (input : Bytes) (room : Nat) :
    (advance prompts (within input room)).prompts =
      { room := some (room - (promptBytes prompts).length) } := by
  induction prompts generalizing input room with
  | nil => rfl
  | cons prompt prompts ih =>
    rw [advance, rest_read, ih, promptBytes_cons, List.length_append, Nat.sub_sub]

/-- The prompts are shown as far as there is room. -/
theorem shown_readings (prompts : List String) (input : Bytes) (room : Nat) :
    shownBy (readings prompts (within input room)) = (promptBytes prompts).take room := by
  induction prompts generalizing input room with
  | nil => exact List.take_nil.symm
  | cons prompt prompts ih =>
    rw [readings, shownBy_cons, shown_read, rest_read, ih, promptBytes_cons, List.take_append]

/-- The reader behind some prompts is that of what is left of the input and of the room. -/
theorem advance_within (prompts : List String) (input : Bytes) (room : Nat) :
    advance prompts (within input room) =
      within (advance prompts (within input room)).input
        (room - (shownBy (readings prompts (within input room))).length) := by
  have hroom := room_advance prompts input room
  have hleft : room - ((promptBytes prompts).take room).length =
      room - (promptBytes prompts).length := by
    rw [List.length_take]
    omega
  rw [shown_readings, hleft]
  cases hbehind : advance prompts (within input room) with
  | mk rest sink =>
    rw [hbehind] at hroom
    exact congrArg (StreamReader.mk rest) hroom

/-- The readings that are not refused answer what as many unlimited ones answer, and leave what
those leave. -/
theorem unrefused_readings (prompts others : List String) (input : Bytes) (room : Nat)
    (hsame : others.length = (unrefused (readings prompts (within input room))).length) :
    (unrefused (readings prompts (within input room))).map (·.answer) =
        (readings others { input }).map (·.answer) ∧
      (advance prompts (within input room)).input = (advance others { input }).input := by
  induction prompts generalizing others input room with
  | nil =>
    obtain rfl := List.length_eq_zero_iff.mp hsame
    exact ⟨rfl, rfl⟩
  | cons prompt prompts ih =>
    rw [readings, rest_read] at hsame ⊢
    rw [advance, rest_read]
    -- a refused read has no counterpart among the others, any other read is the first of them
    by_cases hrefused : room < (Bytes.ofString prompt).length
    · have hanswer := (read_refused_iff prompt input room).mpr hrefused
      rw [unrefused_cons_of_eq hanswer, if_pos hrefused] at hsame ⊢
      exact ih others input _ hsame
    · have hanswer := mt (read_refused_iff prompt input room).mp hrefused
      rw [unrefused_cons_of_ne hanswer, if_neg hrefused] at hsame ⊢
      cases others with
      | nil => cases hsame
      | cons other others =>
        have hother : read other { input } =
            ⟨(Session.taken input).1, Bytes.ofString other, { input := (Session.taken input).2 }⟩ :=
          Session.read_input other input
        obtain ⟨hanswers, hleft⟩ := ih others (Session.taken input).2 _ (Nat.succ.inj hsame)
        have hfirst : (read prompt (within input room)).answer = (read other { input }).answer := by
          rw [hother, read_within, if_pos (by omega)]
        rw [readings, advance, List.map_cons, List.map_cons, hfirst, hother, hanswers, hleft]
        exact ⟨rfl, rfl⟩

/-- A prompt behind one that did not fit is refused unless it is empty. -/
theorem refused_behind_iff {before : List String} {limit : Nat}
    (hfull : limit < (promptBytes before).length) (prompt : String) (input : Bytes) :
    ((advance before (within input limit)).read prompt).answer = refusal ↔ prompt ≠ "" := by
  rw [advance_within, read_refused_iff, shown_readings, List.length_take,
    show limit - min limit (promptBytes before).length = 0 by omega, List.length_pos_iff]
  exact ⟨fun h hempty => h (by rw [hempty, Bytes.ofString_eq]; rfl), Bytes.ofString_ne_nil⟩

/-- **A prompt that is refused loses no input.**  The writer takes so many bytes in all, however few
at a time, and then none.  A read fails for its prompt exactly if the prompt is longer than what the
writer still takes, and then the input is as it was; the other reads answer what as many reads
answer whose prompts are all written, and leave what those leave.  What is written is the prompts
up to the first that does not fit and as much of that one as fits; behind it every prompt is refused
that is not empty. -/
theorem refused_prompts_lose_no_input (input : Bytes) (limit : Nat) (prompts : List String) :
    let start := within input limit
    let made := readings prompts start
    IoError.writeRefused.message = "failed to write whole buffer" ∧
    (∀ most room bytes, Sink.pour most room bytes = ({ room := some room } : Sink).write bytes) ∧
    made.length = prompts.length ∧
    (∀ before prompt after, prompts = before ++ prompt :: after →
      let current := advance before start
      let reading := current.read prompt
      let left := limit - (shownBy (readings before start)).length
      made[before.length]? = some reading ∧
      (reading.answer = .failed (.io .writeRefused) ↔ left < (Bytes.ofString prompt).length) ∧
      (reading.answer = .failed (.io .writeRefused) → reading.rest.input = current.input)) ∧
    (∀ others : List String, others.length = (unrefused made).length →
      (unrefused made).map (·.answer) = (readings others { input }).map (·.answer) ∧
      (advance prompts start).input = (advance others { input }).input) ∧
    ((promptBytes prompts).length ≤ limit → shownBy made = promptBytes prompts) ∧
    (∀ before prompt after, prompts = before ++ prompt :: after →
      let written := (promptBytes before).length
      written ≤ limit → limit - written < (Bytes.ofString prompt).length →
      shownBy made = promptBytes before ++ (Bytes.ofString prompt).take (limit - written) ∧
      ∀ between later rest, after = between ++ later :: rest →
        (((advance (before ++ prompt :: between) start).read later).answer =
          .failed (.io .writeRefused) ↔ later ≠ "")) := by
  refine ⟨rfl, Sink.pour_eq_write, length_readings prompts _, ?_, ?_, ?_, ?_⟩
  · rintro before prompt after rfl current reading left
    have hcurrent : current = within current.input left := advance_within before input limit
    refine ⟨?_, ?_, fun hrefused => ?_⟩
    · rw [readings_append, List.getElem?_append_right (Nat.le_of_eq (length_readings before _)),
        length_readings, Nat.sub_self]
      rfl
    · show (read prompt current).answer = refusal ↔ _
      rw [hcurrent]
      exact read_refused_iff prompt current.input left
    · have hlong : left < (Bytes.ofString prompt).length := by
        rw [← read_refused_iff prompt current.input left, ← hcurrent]
        exact hrefused
      show (read prompt current).rest.input = _
      rw [hcurrent, rest_read, if_pos hlong]
  · exact fun others hsame => unrefused_readings prompts others input limit hsame
  · intro hfits
    rw [shown_readings, List.take_of_length_le hfits]
  · rintro before prompt after rfl written hbefore hlong
    constructor
    · rw [shown_readings, promptBytes_append, promptBytes_cons, List.take_append,
        List.take_of_length_le hbefore, List.take_append_of_le_length (by omega)]
    · rintro between later rest -
      refine refused_behind_iff ?_ later input
      rw [promptBytes_append, promptBytes_cons, List.length_append, List.length_append]
      omega

/-- Three reads of two lines with room for three bytes: the second prompt fits by half, and the
empty one behind it is written. -/
theorem refused_prompts_lose_no_input_half :
    (unrefused (readings ["$ ", "> ", ""] (within [97, 10, 98, 10] 3))).map (·.answer) =
        (readings ["", ""] { input := [97, 10, 98, 10] }).map (·.answer) ∧
      shownBy (readings ["$ ", "> ", ""] (within [97, 10, 98, 10] 3)) = Bytes.ofString "$ >" := by
  obtain ⟨-, -, -, -, hanswers, -, hshown⟩ :=
    refused_prompts_lose_no_input [97, 10, 98, 10] 3 ["$ ", "> ", ""]
  refine ⟨(hanswers ["", ""] (by decide +kernel)).1, ?_⟩
  rw [(hshown ["$ "] "> " [""] rfl (by decide +kernel) (by decide +kernel)).1]
  decide +kernel

end StreamReader

end JobShell
