import JobShell.Proofs.LineGrammar
import JobShell.Proofs.Quiet
import JobShell.Proofs.Reads
import Mathlib.Data.List.Nodup

/-!
# Job notices

A notice can be read back from both ends.  The number of the job ends at the first closing bracket,
and the time that it took begins behind the last opening parenthesis; of what is left between them
the status is told by its first letter, and ends where its number or its name does.  The command may
hold anything, even what looks like a notice (`FinishedJob.eq_of_notice`).

A notice is broken only by a line feed in its command (`FinishedJob.lineFeed_mem_notice_iff`), and
none comes from a line that was read from a stream (`StreamReader.lineFeed_not_mem_read`).  So a
shell that reads a stream gives each notice on a line of its own, from the first round of a run to
the last (`Shell.notice_new_collectsAll`).
-/

namespace JobShell

/-! ## Cutting a text -/

namespace Text

section

variable {α : Type} {c : α} {front front' back back' : List α}

/-- A text is cut at the first of its marks in one way only. -/
theorem cut_at_first (hfront : c ∉ front) (hfront' : c ∉ front')
    (h : front ++ c :: back = front' ++ c :: back') : front = front' ∧ back = back' := by
  induction front generalizing front' with
  | nil =>
    cases front' with
    | nil => exact ⟨rfl, (List.cons.inj h).2⟩
    | cons d rest' =>
      rw [(List.cons.inj h).1] at hfront'
      exact absurd List.mem_cons_self hfront'
  | cons d rest ih =>
    cases front' with
    | nil =>
      rw [← (List.cons.inj h).1] at hfront
      exact absurd List.mem_cons_self hfront
    | cons d' rest' =>
      obtain ⟨rfl, hrest⟩ := List.cons.inj h
      obtain ⟨rfl, hback⟩ := ih (fun hc => hfront (List.mem_cons_of_mem _ hc))
        (fun hc => hfront' (List.mem_cons_of_mem _ hc)) hrest
      exact ⟨rfl, hback⟩

/-- A text is cut at the last of its marks in one way only. -/
theorem cut_at_last (hback : c ∉ back) (hback' : c ∉ back')
    (h : front ++ c :: back = front' ++ c :: back') : front = front' ∧ back = back' := by
  have hreversed : back.reverse ++ c :: front.reverse = back'.reverse ++ c :: front'.reverse := by
    have := congrArg List.reverse h
    simpa only [List.reverse_append, List.reverse_cons, List.append_assoc, List.singleton_append]
      using this
  obtain ⟨hbacks, hfronts⟩ := cut_at_first (fun hc => hback (List.mem_reverse.mp hc))
    (fun hc => hback' (List.mem_reverse.mp hc)) hreversed
  exact ⟨List.reverse_inj.mp hfronts, List.reverse_inj.mp hbacks⟩

end

theorem toList_leftAligned (width : Nat) (text : String) : (leftAligned width text).toList =
    text.toList ++ List.replicate (width - text.length) ' ' := by
  have hspaces : ∀ n, ("".pushn ' ' n).toList = List.replicate n ' ' := by
    intro n
    rw [String.pushn_eq_repeat_push]
    induction n with
    | zero => rfl
    | succ n ih => rw [Nat.repeat, String.toList_push, ih, ← List.replicate_succ']
  rw [leftAligned, String.toList_append, hspaces]

theorem mem_of_mem_trim {c : Char} {cs : List Char} (h : c ∈ trim cs) : c ∈ cs :=
  (List.dropWhile_sublist _).mem
    (List.mem_reverse.mp ((List.dropWhile_sublist _).mem (List.mem_reverse.mp h)))

end Text

/-! ## The parts of a notice -/

theorem not_mem_natRepr {c : Char} (hc : c.isDigit = false) (n : Nat) : c ∉ n.repr.toList := by
  rw [Nat.toList_repr]
  intro hmem
  rw [Nat.isDigit_of_mem_toDigits (by decide) (by decide) hmem] at hc
  cases hc

theorem not_mem_intRepr {c : Char} (hc : c.isDigit = false) (hminus : c ≠ '-') (n : Int) :
    c ∉ n.repr.toList := by
  cases n with
  | ofNat n => exact not_mem_natRepr hc n
  | negSucc n =>
    show c ∉ ("-" ++ n.succ.repr).toList
    rw [String.toList_append]
    exact List.not_mem_cons_of_ne_of_not_mem hminus (not_mem_natRepr hc _)

-- The library has these two as `Nat.repr_injective` and `Int.repr_injective`, in modules that come
-- only with the whole of it.

theorem natRepr_inj {n m : Nat} (h : n.repr = m.repr) : n = m := by
  have hdigits : Nat.toDigits 10 n = Nat.toDigits 10 m := by
    rw [← Nat.toList_repr, ← Nat.toList_repr, h]
  rw [← Nat.ofDigitChars_ten_toDigits (n := n), hdigits, Nat.ofDigitChars_ten_toDigits]

theorem intRepr_inj {n m : Int} (h : n.repr = m.repr) : n = m := by
  have hsign : ∀ k l : Nat, k.repr ≠ "-" ++ l.repr := fun k l hkl =>
    not_mem_natRepr (c := '-') (by decide) k (by simp [hkl])
  cases n with
  | ofNat n =>
    cases m with
    | ofNat m => rw [natRepr_inj (show n.repr = m.repr from h)]
    | negSucc m => exact absurd h (hsign n m.succ)
  | negSucc n =>
    cases m with
    | ofNat m => exact absurd h.symm (hsign m n.succ)
    | negSucc m =>
      have htail : "-" ++ n.succ.repr = "-" ++ m.succ.repr := h
      rw [Nat.succ.inj (natRepr_inj (String.append_right_inj _ |>.mp htail))]

namespace Duration

/-- The text of a span of time is of digits, a point and one digit. -/
theorem toList_text (span : Duration) : ∃ whole digit, span.text.toList = whole ++ ['.', digit] ∧
    whole ≠ [] ∧ ∀ c ∈ whole ++ [digit], c.isDigit = true := by
  have htenth : span.tenths % 10 < 10 := Nat.mod_lt _ (by decide)
  refine ⟨(span.tenths / 10).repr.toList, Nat.digitChar (span.tenths % 10), ?_, ?_, fun c hc => ?_⟩
  · simp [text, toString, Nat.repr_of_lt htenth]
  · rw [Nat.toList_repr]
    exact Nat.toDigits_ne_nil
  · rcases List.mem_append.mp hc with hc | hc
    · rw [Nat.toList_repr] at hc
      exact Nat.isDigit_of_mem_toDigits (by decide) (by decide) hc
    · rw [List.mem_singleton.mp hc, Nat.isDigit_digitChar, decide_eq_true htenth]

theorem not_mem_text {c : Char} (hc : c.isDigit = false) (hpoint : c ≠ '.') (span : Duration) :
    c ∉ span.text.toList := by
  obtain ⟨whole, digit, htext, -, hdigits⟩ := span.toList_text
  intro hmem
  have hdigit : c ∈ whole ++ [digit] := by
    rw [htext, List.append_cons, List.mem_append, List.mem_append] at hmem
    simpa [hpoint] using hmem
  rw [hdigits c hdigit] at hc
  cases hc

end Duration

namespace Signal

theorem mem_all (s : Signal) : s ∈ all := by
  cases s <;> decide

theorem name_inj {s t : Signal} (h : s.name = t.name) : s = t := by
  have hnames : (all.map name).Nodup := by decide
  exact List.inj_on_of_nodup_map hnames (mem_all s) (mem_all t) h

/-- The names of signals have capitals and digits in them. -/
theorem not_mem_name {c : Char} (hc : c.isAlphanum = false) (s : Signal) : c ∉ s.name.toList := by
  have hplain : s.name.toList.all (·.isAlphanum) = true := by
    cases s <;> rfl
  intro hmem
  rw [List.all_eq_true.mp hplain c hmem] at hc
  cases hc

end Signal

namespace Status

/-- The status is how a child ended. -/
inductive IsEnd : Status → Prop
  | exited (code : Int) : IsEnd (.exited code)
  | signaled (signal : Signal) : IsEnd (.signaled signal)

/-- The ends of children are what answers about them tell. -/
theorem isEnd_iff {status : Status} :
    status.IsEnd ↔ ∃ answer : WaitAnswer, answer.status? = some status := by
  constructor
  · rintro (⟨code⟩ | ⟨signal⟩)
    · exact ⟨.exited code, rfl⟩
    · exact ⟨.signaled signal, rfl⟩
  · rintro ⟨answer, h⟩
    cases answer with
    | exited code => exact Option.some.inj h ▸ .exited code
    | signaled signal => exact Option.some.inj h ▸ .signaled signal
    | _ => cases h

theorem toList_summary_exited {code : Int} (h : code ≠ 0) :
    (exited code).summary.toList = "Exit ".toList ++ code.repr.toList := by
  have hsummary : (exited code).summary = "Exit " ++ code.repr := if_neg h
  rw [hsummary, String.toList_append]

theorem toList_summary_signaled (signal : Signal) : (signaled signal).summary.toList =
    "Killed (".toList ++ (signal.name.toList ++ [')']) := by
  have hsummary : (signaled signal).summary = "Killed (" ++ signal.name ++ ")" := rfl
  rw [hsummary, String.toList_append, String.toList_append, List.append_assoc]
  rfl

/-- The three wordings of an end. -/
theorem IsEnd.summary_cases {status : Status} (h : status.IsEnd) :
    (status = .exited 0 ∧ status.summary.toList = "Done".toList) ∨
    (∃ code, status = .exited code ∧
      status.summary.toList = "Exit ".toList ++ code.repr.toList) ∨
    ∃ signal, status = .signaled signal ∧
      status.summary.toList = "Killed (".toList ++ (signal.name.toList ++ [')']) := by
  cases h with
  | exited code =>
    by_cases hcode : code = 0
    · subst hcode
      exact Or.inl ⟨rfl, rfl⟩
    · exact Or.inr (Or.inl ⟨code, rfl, toList_summary_exited hcode⟩)
  | signaled signal => exact Or.inr (Or.inr ⟨signal, rfl, toList_summary_signaled signal⟩)

/-- The end of a child is read off its wording, wherever that goes on with a space. -/
theorem eq_of_summary {s t : Status} (hs : s.IsEnd) (ht : t.IsEnd) {rest rest' : List Char}
    (h : s.summary.toList ++ ' ' :: rest = t.summary.toList ++ ' ' :: rest') : s = t := by
  -- the first letters of the three wordings differ, so only like stands against like
  rcases hs.summary_cases with ⟨hs, hwords⟩ | ⟨code, hs, hwords⟩ | ⟨signal, hs, hwords⟩ <;>
    rcases ht.summary_cases with ⟨ht, hwords'⟩ | ⟨code', ht, hwords'⟩ | ⟨signal', ht, hwords'⟩ <;>
    rw [hwords, hwords'] at h <;> rw [hs, ht]
  case inr.inl.inr.inl =>
    rw [List.append_assoc, List.append_assoc, List.append_cancel_left_eq] at h
    have hspace : ∀ n : Int, ' ' ∉ n.repr.toList := not_mem_intRepr (by decide) (by decide)
    obtain ⟨hcode, -⟩ := Text.cut_at_first (hspace code) (hspace code') h
    rw [intRepr_inj (String.toList_injective hcode)]
  case inr.inr.inr.inr =>
    simp only [List.append_assoc, List.append_cancel_left_eq, List.singleton_append] at h
    have hclose : ∀ signal : Signal, ')' ∉ signal.name.toList := Signal.not_mem_name (by decide)
    obtain ⟨hname, -⟩ := Text.cut_at_first (hclose signal) (hclose signal') h
    rw [Signal.name_inj (String.toList_injective hname)]
  all_goals cases h

/-- The wording of a status has letters, digits, spaces, parentheses and signs in it. -/
theorem lineFeed_not_mem_summary (status : Status) : '\n' ∉ status.summary.toList := by
  have hnumber : ∀ n : Int, '\n' ∉ n.repr.toList := not_mem_intRepr (by decide) (by decide)
  have hexit : ∀ code : Int, '\n' ∉ (if code = 0 then "Done" else "Exit " ++ code.repr).toList := by
    intro code
    split
    · decide
    · simpa using hnumber code
  cases status with
  | builtin code => exact hexit code
  | exited code => exact hexit code
  | signaled signal =>
    have hname : '\n' ∉ signal.name.toList := Signal.not_mem_name (by decide) signal
    rw [toList_summary_signaled]
    simpa using hname
  | detached pid =>
    show '\n' ∉ ("Running (pid " ++ pid.number.repr ++ ")").toList
    simpa using hnumber pid.number

end Status

/-! ## The whole notice -/

namespace FinishedJob

open Text (leftAligned trim)

/-- A notice from its number to its time. -/
theorem toList_notice (finished : FinishedJob) : finished.notice.toList =
    '[' :: (finished.job.id.repr.toList ++ ']' :: ' ' ::
      ((leftAligned 10 finished.status.summary).toList ++ ' ' ::
        (trim finished.job.command.toList ++ [' ']) ++ '(' ::
          (finished.elapsed.text.toList ++ ['s', ')']))) := by
  simp [notice, toString]

/-- A wording that is filled up goes on with a space, as one that is not. -/
theorem leftAligned_space (status : Status) (rest : List Char) :
    ∃ more, (leftAligned 10 status.summary).toList ++ ' ' :: rest =
      status.summary.toList ++ ' ' :: more := by
  rw [Text.toList_leftAligned, List.append_assoc]
  cases 10 - status.summary.length with
  | zero => exact ⟨rest, rfl⟩
  | succ n => exact ⟨List.replicate n ' ' ++ ' ' :: rest, rfl⟩

/-- What is told in a notice is read back from it. -/
theorem eq_of_notice {f g : FinishedJob} (hf : f.status.IsEnd) (hg : g.status.IsEnd)
    (h : f.notice = g.notice) : f.job.id = g.job.id ∧ f.status = g.status ∧
      trim f.job.command.toList = trim g.job.command.toList ∧
      f.elapsed.text = g.elapsed.text := by
  have hbracket : ∀ n : Nat, ']' ∉ n.repr.toList := not_mem_natRepr (by decide)
  have hparen : ∀ span : Duration, '(' ∉ span.text.toList ++ ['s', ')'] := fun span hmem => by
    rcases List.mem_append.mp hmem with hmem | hmem
    · exact Duration.not_mem_text (by decide) (by decide) span hmem
    · exact absurd hmem (by decide)
  have hcharacters := congrArg String.toList h
  rw [toList_notice, toList_notice, List.cons.injEq] at hcharacters
  obtain ⟨hid, hbehind⟩ := Text.cut_at_first (hbracket _) (hbracket _) hcharacters.2
  obtain ⟨hbetween, htime⟩ := Text.cut_at_last (hparen _) (hparen _) (List.cons.inj hbehind).2
  have hstatus : f.status = g.status := by
    obtain ⟨more, hmore⟩ := leftAligned_space f.status (trim f.job.command.toList ++ [' '])
    obtain ⟨more', hmore'⟩ := leftAligned_space g.status (trim g.job.command.toList ++ [' '])
    rw [hmore, hmore'] at hbetween
    exact Status.eq_of_summary hf hg hbetween
  rw [hstatus, List.append_cancel_left_eq, List.cons.injEq, List.append_cancel_right_eq] at hbetween
  exact ⟨natRepr_inj (String.toList_injective hid), hstatus, hbetween.2,
    String.toList_injective (List.append_cancel_right htime)⟩

/-- Only the command can break the line of a notice. -/
theorem lineFeed_mem_notice_iff (finished : FinishedJob) :
    '\n' ∈ finished.notice.toList ↔ '\n' ∈ trim finished.job.command.toList := by
  have hid : '\n' ∉ finished.job.id.repr.toList := not_mem_natRepr (by decide) _
  have hspan : '\n' ∉ finished.elapsed.text.toList :=
    Duration.not_mem_text (by decide) (by decide) _
  rw [Nat.toList_repr] at hid
  rw [toList_notice, Text.toList_leftAligned]
  simp [hid, hspan, finished.status.lineFeed_not_mem_summary]

theorem lineFeed_not_mem_notice {finished : FinishedJob}
    (h : '\n' ∉ finished.job.command.toList) : '\n' ∉ finished.notice.toList := fun hmem =>
  h (Text.mem_of_mem_trim ((lineFeed_mem_notice_iff finished).mp hmem))

end FinishedJob

/-! ## Lines of a stream and their commands -/

namespace StreamReader

/-- The bytes that are cut off for a line have a line feed at their end at most. -/
theorem lineFeed_not_mem_dropLast (input : Bytes) : lineFeed ∉ (cutLine input).1.dropLast := by
  have hopen : lineFeed ∉ input.takeWhile (· != lineFeed) := fun hmem => by
    simpa using List.mem_takeWhile_imp hmem
  unfold cutLine
  split
  · exact fun hmem => hopen ((List.dropLast_sublist _).mem hmem)
  · rwa [List.dropLast_concat]

/-- What ends a line takes the line feed at the end of its bytes with it. -/
theorem lineFeed_not_mem_of_ended {line taken : Bytes} (h : Ended line taken)
    (hopen : lineFeed ∉ taken.dropLast) : lineFeed ∉ line := by
  cases h with
  | returned =>
    rw [List.append_cons, List.dropLast_concat] at hopen
    exact fun hmem => hopen (List.mem_append_left _ hmem)
  | fed _ => rwa [List.dropLast_concat] at hopen
  | unended hlast =>
    intro hmem
    have hne : line ≠ [] := List.ne_nil_of_mem hmem
    rw [← List.dropLast_concat_getLast hne, List.mem_append, List.mem_singleton] at hmem
    rcases hmem with hmem | hmem
    · exact hopen hmem
    · exact hlast (by rw [List.getLast?_eq_some_getLast hne, ← hmem])

theorem ended_of_answer {taken : Bytes} {line : String} (h : answer taken = .line line) :
    Ended (Bytes.ofString line) taken := by
  unfold answer at h
  split at h
  case h_1 text htext =>
    cases h
    rw [← Bytes.text?_eq_some_iff.mp htext, Bytes.ofString_eq, Bytes.ofString_eq,
      String.toList_ofList]
    exact ended_encode _
  case h_2 => cases h

/-- A line that was read has no line feed in it. -/
theorem lineFeed_not_mem_read {reader : StreamReader} {prompt line : String}
    (h : (reader.read prompt).answer = .line line) : '\n' ∉ line.toList := by
  have hanswer : answer (cutLine reader.input).1 = .line line := by
    rw [read_eq] at h
    split at h
    · unfold Session.taken at h
      split at h
      · cases h
      · exact h
    · cases h
  intro hmem
  refine lineFeed_not_mem_of_ended (ended_of_answer hanswer) (lineFeed_not_mem_dropLast _) ?_
  rw [Bytes.ofString_eq]
  exact (Bytes.mem_encode_iff (c := '\n') (by decide)).mpr hmem

end StreamReader

namespace Command

variable {line : String} {cmd : Command} (h : parse line = .ok cmd)

include h

theorem mem_of_mem_rawText {c : Char} (hc : c ∈ cmd.rawText.toList) : c ∈ line.toList := by
  obtain ⟨-, hback, hfore⟩ := unmarked_eq (parse_eq_ok_iff.mp h).1
  cases hmarked : cmd.isBackground with
  | true =>
    obtain ⟨after, -, hline⟩ := hback hmarked
    rw [hline]
    exact List.mem_append_left _ hc
  | false => rwa [← hfore hmarked]

/-- Something is left of a command between the white space around it. -/
theorem trim_rawText_ne_nil : Text.trim cmd.rawText.toList ≠ [] := by
  intro htrim
  have hwords := (parse_eq_ok_iff.mp h).2
  rw [Text.words_of_blanks (Text.trim_eq_nil_iff.mp htrim)] at hwords
  cases hwords

end Command

/-! ## Jobs and their notices -/

namespace JobTable

variable {σ : Type} [Host σ] {table : JobTable}

/-- No command of a job has a line feed in it. -/
def Unbroken (table : JobTable) : Prop := ∀ job ∈ table.jobs, '\n' ∉ job.command.toList

theorem Unbroken.track (h : Unbroken table) (pid : Pid) {command : String}
    (hcommand : '\n' ∉ command.toList) (host : σ) :
    Unbroken (table.track pid command host).value.2 := by
  rw [track_value]
  exact List.forall_mem_append.mpr ⟨h, fun job hjob => List.mem_singleton.mp hjob ▸ hcommand⟩

/-- A poll leaves no other jobs, and what it collects has notices of one line. -/
theorem Unbroken.poll (h : Unbroken table) (host : σ) : Unbroken (table.poll host).value.2 ∧
    ∀ finished ∈ (table.poll host).value.1, '\n' ∉ finished.notice.toList := by
  obtain ⟨host', -, ⟨hvalue, -⟩ | ⟨hvalue, -⟩⟩ := poll_cases table host
  · rw [hvalue]
    exact ⟨h, fun _ hfinished => absurd hfinished List.not_mem_nil⟩
  · rw [hvalue]
    refine ⟨fun job hjob => h job ?_, fun finished hfinished =>
      FinishedJob.lineFeed_not_mem_notice (h finished.job (mem_reap hfinished).1)⟩
    rw [jobs_reap] at hjob
    obtain ⟨answer, hasked, -⟩ := mem_keptOf.mp hjob
    exact (List.of_mem_zip hasked).1

end JobTable

namespace Dispatcher

variable {σ : Type} [Host σ]

/-- A dispatch leaves the jobs as they are, or has tracked a child under the text of its command. -/
theorem jobs_dispatch (cmd : Command) (state : ShellState) (dispatcher : Dispatcher σ) (host : σ) :
    let dispatched := (dispatch cmd state dispatcher host).value
    (dispatched.2.2.jobs = dispatcher.jobs ∧
      (cmd.isBackground = true → ∀ pid, dispatched.1 ≠ .ok (.detached pid))) ∨
    ∃ pid started, dispatched.1 = .ok (.detached pid) ∧
      dispatched.2.2.jobs = (dispatcher.jobs.track pid cmd.rawText (started : σ)).value.2 := by
  dsimp only
  cases hfound : dispatcher.builtins.get? cmd.name with
  | some registration =>
    obtain ⟨reply, -, hvalue, -⟩ := dispatch_called hfound state host
    rw [hvalue]
    exact Or.inl ⟨rfl, nofun⟩
  | none =>
    rw [(dispatch_launched hfound state host).1]
    rcases launch_value_cases cmd dispatcher host with
      ⟨error, -, hvalue⟩ | ⟨pid, -, ⟨-, hvalue⟩ | ⟨hfore, hvalue⟩⟩
    · rw [hvalue]
      exact Or.inl ⟨rfl, nofun⟩
    · rw [hvalue]
      exact Or.inr ⟨pid, _, rfl, rfl⟩
    · rw [hvalue]
      exact Or.inl ⟨rfl, fun hback => absurd (hback.symm.trans hfore) nofun⟩

end Dispatcher

/-! ## The notices of a run -/

namespace Shell

variable {ρ σ ω : Type} [Host σ]

/-- No command of a job of the shell has a line feed in it. -/
def Unbroken (shell : Shell ρ σ ω) : Prop := shell.dispatcher.jobs.Unbroken

theorem dispatcher_execute (cmd : Command) (shell : Shell ρ σ ω) (host : σ) :
    (execute cmd shell host).value.2.dispatcher =
      (shell.dispatcher.dispatch cmd shell.state host).value.2.2 := by
  unfold execute
  rw [Act.bind_value]
  cases (shell.dispatcher.dispatch cmd shell.state host).value.1 <;> rfl

namespace Unbroken

theorem execute {shell : Shell ρ σ ω} (h : Unbroken shell) {cmd : Command}
    (hcmd : '\n' ∉ cmd.rawText.toList) (host : σ) : Unbroken (execute cmd shell host).value.2 := by
  unfold Unbroken
  rw [dispatcher_execute]
  rcases Dispatcher.jobs_dispatch cmd shell.state shell.dispatcher host with
    ⟨hjobs, -⟩ | ⟨pid, started, -, hjobs⟩
  · rw [hjobs]
    exact h
  · rw [hjobs]
    exact JobTable.Unbroken.track h pid hcmd started

theorem executeLine {shell : Shell ρ σ ω} (h : Unbroken shell) {line : String}
    (hline : '\n' ∉ line.toList) (host : σ) : Unbroken (executeLine line shell host).value.2 := by
  cases hparse : Command.parse line with
  | error e =>
    rw [executeLine_blank hparse]
    exact h
  | ok cmd =>
    rw [executeLine_command hparse]
    exact h.execute (fun hmem => hline (Command.mem_of_mem_rawText hparse hmem)) host

theorem respond [Writer ω] {shell : Shell ρ σ ω} (h : Unbroken shell) {answer : ReadAnswer}
    (hanswer : ∀ line, answer = .line line → '\n' ∉ line.toList) (host : σ) :
    Unbroken (respond answer shell host).value.2 := by
  cases answer with
  | line line =>
    simp only [Shell.respond]
    split
    · exact h
    · exact h.executeLine (hanswer line rfl) host
  | failed error => exact h
  | closed =>
    have hleft : ∀ shell : Shell ρ σ ω, Unbroken shell → Unbroken (leave shell host).value := by
      intro shell h
      unfold leave
      split
      · exact h.executeLine (by decide) host
      · exact h
    show Unbroken (leaveAfter (echoExit shell host).value.1 (echoExit shell host).value.2 _).value.2
    cases (echoExit shell host).value.1 with
    | error error => exact h
    | ok _ => exact hleft (echoExit shell host).value.2 h

variable [Writer ω] {shell : Shell StreamReader σ ω} (h : Unbroken shell) (host : σ)

include h

theorem step : Unbroken (step shell host).value.2 := by
  have hreported : Unbroken (reportFinishedJobs shell host).value := by
    rw [value_reportFinishedJobs]
    exact (JobTable.Unbroken.poll h host).1
  rw [step_eq]
  refine respond ?_ (fun _ hread => StreamReader.lineFeed_not_mem_read hread) _
  exact hreported

theorem notice_collectsAll : ∀ collected ∈ shell.collectsAll host, ∀ finished ∈ collected,
    '\n' ∉ finished.notice.toList := by
  intro collected hcollected
  obtain ⟨round, hround, rfl⟩ := List.mem_map.mp hcollected
  have hkept : Unbroken round.1 :=
    forall_rounds Unbroken (fun host h => step h host) h host round hround
  exact (JobTable.Unbroken.poll hkept round.2).2

end Unbroken

/-- Every notice of a run of a new shell that reads a stream is one line. -/
theorem notice_new_collectsAll [Writer ω] (flags : Flags) (reader : StreamReader) (out : ω)
    (builtins : Builtins σ) (host : σ) :
    let shell : Shell StreamReader σ ω := (Shell.new flags reader out).withBuiltins builtins
    ∀ collected ∈ shell.collectsAll host, ∀ finished ∈ collected,
      '\n' ∉ finished.notice.toList := by
  intro shell
  have hnew : Unbroken shell := fun _ hjob => absurd hjob List.not_mem_nil
  exact hnew.notice_collectsAll host

end Shell

namespace FinishedJob

open Text (trim)

/-- **Notices are single lines that can be told apart.**  Two notices about children that have
ended, as all have that a reaping returns, are equal only if their jobs have the same number, their
children ended alike, their commands are the same but for white space around them, and the printed
times are equal; a time is printed as digits, a point and one digit.  Of a command that was parsed
something is left without the white space.  If the line of a command in the background was read from
a stream, then no notice of the job that comes of it has a line feed in it, however the child ends
and whatever time it takes. -/
theorem notices_are_unambiguous_lines {σ : Type} [Host σ] :
    (∀ f g : FinishedJob, f.status.IsEnd → g.status.IsEnd → f.notice = g.notice →
      f.job.id = g.job.id ∧ f.status = g.status ∧
        trim f.job.command.toList = trim g.job.command.toList ∧ f.elapsed.text = g.elapsed.text) ∧
    (∀ (table : JobTable) (host : σ), ∀ f ∈ (table.reap host).value.1, f.status.IsEnd) ∧
    (∀ span : Duration, ∃ whole digit, span.text.toList = whole ++ ['.', digit] ∧ whole ≠ [] ∧
      ∀ c ∈ whole ++ [digit], c.isDigit = true) ∧
    (∀ line cmd, Command.parse line = .ok cmd → trim cmd.rawText.toList ≠ []) ∧
    ∀ (reader : StreamReader) prompt line cmd, (reader.read prompt).answer = .line line →
      Command.parse line = .ok cmd → cmd.isBackground = true →
      ∀ (state : ShellState) (dispatcher : Dispatcher σ) (host : σ),
        let dispatched := (dispatcher.dispatch cmd state host).value
        ∃ entered, dispatched.2.2.jobs.jobs = dispatcher.jobs.jobs ++ entered ∧
          (∀ pid, dispatched.1 = .ok (.detached pid) → entered.map (·.pid) = [pid]) ∧
          ∀ job ∈ entered, job.command = cmd.rawText ∧ ∀ status elapsed,
            '\n' ∉ (FinishedJob.mk job status elapsed).notice.toList := by
  refine ⟨fun f g => eq_of_notice,
    fun table host f hf => Status.isEnd_iff.mpr (JobTable.mem_reap hf).2, Duration.toList_text,
    fun line cmd => Command.trim_rawText_ne_nil,
    fun reader prompt line cmd hread hparse hback state dispatcher host => ?_⟩
  have hraw : '\n' ∉ cmd.rawText.toList := fun hmem =>
    StreamReader.lineFeed_not_mem_read hread (Command.mem_of_mem_rawText hparse hmem)
  intro dispatched
  rcases Dispatcher.jobs_dispatch cmd state dispatcher host with
    ⟨hjobs, hnone⟩ | ⟨pid, started, hdetached, hjobs⟩
  · refine ⟨[], ?_, fun pid hpid => absurd hpid (hnone hback pid),
      fun job hjob => absurd hjob List.not_mem_nil⟩
    rw [hjobs, List.append_nil]
  · refine ⟨[⟨dispatcher.jobs.nextId, pid, cmd.rawText, Host.now started⟩], ?_,
      fun other hother => ?_, fun job hjob => ?_⟩
    · rw [hjobs, JobTable.track_value]
    · obtain rfl : pid = other := by simpa using hdetached.symm.trans hother
      rfl
    · obtain rfl := List.mem_singleton.mp hjob
      exact ⟨rfl, fun status elapsed => lineFeed_not_mem_notice hraw⟩

/-- Two ends of the same job by their notices; the command looks like a notice itself. -/
def nested : FinishedJob :=
  ⟨⟨3, ⟨41⟩, "echo [1] Done (0.5s) ", 0⟩, .signaled .term, ⟨1340000000⟩⟩

def nestedLater : FinishedJob :=
  ⟨⟨3, ⟨97⟩, "  echo [1] Done (0.5s)", 8⟩, .signaled .term, ⟨1349000000⟩⟩

/-- A stream whose first line sleeps in the background. -/
def sleepy : StreamReader where
  input := Bytes.ofString "sleep 1 &" ++ carriageReturn :: lineFeed :: Bytes.ofString "exit"

theorem notices_are_unambiguous_lines_nested :
    nested.notice = nestedLater.notice ∧ nested.elapsed.text = nestedLater.elapsed.text ∧
    trim Simulation.sleeper.rawText.toList ≠ [] ∧
    ∃ job, (Dispatcher.dispatch Simulation.sleeper {} {} Simulation.single).value.2.2.jobs.jobs =
        [job] ∧ job.pid = ⟨7⟩ ∧
      ∀ status elapsed, '\n' ∉ (FinishedJob.mk job status elapsed).notice.toList := by
  obtain ⟨hsame, -, -, htrim, hlines⟩ := notices_are_unambiguous_lines (σ := Simulation)
  have hnotice : nested.notice = nestedLater.notice := by decide +kernel
  have hparse : Command.parse "sleep 1 &" = .ok Simulation.sleeper := by decide +kernel
  have hread : (sleepy.read "$ ").answer = .line "sleep 1 &" := by decide +kernel
  obtain ⟨-, -, -, helapsed⟩ := hsame nested nestedLater (.signaled _) (.signaled _) hnotice
  obtain ⟨entered, hjobs, hpids, hbroken⟩ := hlines sleepy "$ " _ _ hread hparse rfl {} {}
    Simulation.single
  obtain ⟨job, rfl, hpid⟩ := List.map_eq_singleton_iff.mp (hpids ⟨7⟩ rfl)
  exact ⟨hnotice, helapsed, htrim _ _ hparse, job, hjobs, hpid,
    (hbroken job (List.mem_singleton_self _)).2⟩

end FinishedJob

end JobShell
