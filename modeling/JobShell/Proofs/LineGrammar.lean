import JobShell.Proofs.BlankLines
import JobShell.Proofs.Rendering

/-!
# The grammar of a line

A run is a place in a text at which characters stand that are no white space, as many as there are
(`Text.IsRun`).  The words of a text are what stands at its runs, from the first run to the last
(`Text.words_runs`); put together they are the text without its white space (`Text.flatten_words`).

With this `Command.parse` is told by the characters of its line alone: where the marker is, what the
words are, and which lines have none (`Command.parse_decomposes`).
-/

namespace JobShell

namespace Text

/-! ## Runs -/

/-- A place in a text, from one character up to another. -/
structure Place where
  first : Nat
  past : Nat
  deriving DecidableEq, Repr

namespace Place

/-- What stands at a place. -/
def cut (cs : List Char) (place : Place) : List Char :=
  (cs.drop place.first).take (place.past - place.first)

/-- The place behind so many characters more. -/
def shift (n : Nat) (place : Place) : Place := ⟨place.first + n, place.past + n⟩

theorem cut_shift (front cs : List Char) (place : Place) :
    (place.shift front.length).cut (front ++ cs) = place.cut cs := by
  unfold cut shift
  rw [Nat.add_comm place.first, List.drop_length_add_append, Nat.add_comm place.past,
    Nat.add_sub_add_left]

end Place

/-- The place holds characters that are no white space, and cannot be made longer at either end. -/
structure IsRun (cs : List Char) (place : Place) : Prop where
  nonempty : place.first < place.past
  within : place.past ≤ cs.length
  solid : ∀ i, place.first ≤ i → i < place.past → ∀ c ∈ cs[i]?, isBlank c = false
  opens : ∀ i, i + 1 = place.first → ∀ c ∈ cs[i]?, isBlank c = true
  closes : ∀ c ∈ cs[place.past]?, isBlank c = true

namespace IsRun

variable {cs : List Char} {place : Place}

/-- No character is both within a run and white space. -/
theorem not_blank (h : IsRun cs place) {i : Nat} (hge : place.first ≤ i) (hlt : i < place.past)
    (hblank : ∀ c ∈ cs[i]?, isBlank c = true) : False := by
  have hc := List.getElem?_eq_getElem (Nat.lt_of_lt_of_le hlt h.within)
  have hsolid := h.solid i hge hlt _ hc
  rw [hblank _ hc] at hsolid
  cases hsolid

/-- White space only holds no run. -/
theorem not_of_blanks (hcs : Blanks cs) : ¬IsRun cs place := fun h =>
  h.not_blank (Nat.le_refl _) h.nonempty fun c hc => hcs c (List.mem_of_getElem? hc)

/-- A text that begins with white space has no run at its front. -/
theorem first_pos (h : IsRun cs place) (hcs : ∀ c ∈ cs.head?, isBlank c = true) :
    0 < place.first := by
  refine Nat.pos_of_ne_zero fun hzero => h.not_blank (i := 0) (by omega) ?_ ?_
  · have := h.nonempty
    omega
  · rwa [← List.head?_eq_getElem?]

end IsRun

/-- A text has its runs behind others too, but for one at its front, which they may make longer. -/
theorem isRun_shift_iff {front rest : List Char} {place : Place} (hpos : 0 < place.first) :
    IsRun (front ++ rest) (place.shift front.length) ↔ IsRun rest place := by
  have hat : ∀ i, (front ++ rest)[i + front.length]? = rest[i]? := fun i => by
    rw [List.getElem?_append_right (Nat.le_add_left _ _), Nat.add_sub_cancel]
  have hback : ∀ i, front.length ≤ i → ∃ j, i = j + front.length :=
    fun i hi => ⟨i - front.length, by omega⟩
  constructor
  · intro h
    have hnonempty := h.nonempty
    have hwithin := h.within
    simp only [Place.shift, List.length_append] at hnonempty hwithin
    refine ⟨by omega, by omega, fun i hge hlt => ?_, fun i hi => ?_, ?_⟩
    · rw [← hat]
      exact h.solid _ (Nat.add_le_add_right hge _) (Nat.add_lt_add_right hlt _)
    · rw [← hat]
      exact h.opens _ (by simp only [Place.shift]; omega)
    · rw [← hat]
      exact h.closes
  · intro h
    have hnonempty := h.nonempty
    have hwithin := h.within
    refine ⟨by simp only [Place.shift]; omega, ?_, fun i hge hlt => ?_, fun i hi => ?_, ?_⟩
    · simp only [Place.shift, List.length_append]
      omega
    · simp only [Place.shift] at hge hlt
      obtain ⟨j, rfl⟩ := hback i (by omega)
      rw [hat]
      exact h.solid j (by omega) (by omega)
    · simp only [Place.shift] at hi
      obtain ⟨j, rfl⟩ := hback i (by omega)
      rw [hat]
      exact h.opens j (by omega)
    · simp only [Place.shift, hat]
      exact h.closes

section

variable {gap word rest : List Char} (hgap : Blanks gap) (hword : IsWord word)
  (hrest : ∀ c ∈ rest.head?, isBlank c = true)

include hgap in
theorem blank_of_lt {i : Nat} (h : i < gap.length) :
    ∀ c ∈ (gap ++ word ++ rest)[i]?, isBlank c = true := by
  intro c hc
  rw [List.append_assoc, List.getElem?_append_left h] at hc
  exact hgap c (List.mem_of_getElem? hc)

include hword in
theorem solid_of_lt {i : Nat} (hge : gap.length ≤ i) (hlt : i < (gap ++ word).length) :
    ∀ c ∈ (gap ++ word ++ rest)[i]?, isBlank c = false := by
  intro c hc
  rw [List.getElem?_append_left hlt, List.getElem?_append_right hge] at hc
  exact hword.2 c (List.mem_of_getElem? hc)

include hrest in
theorem blank_behind : ∀ c ∈ (gap ++ word ++ rest)[(gap ++ word).length]?, isBlank c = true := by
  intro c hc
  rw [List.getElem?_append_right (Nat.le_refl _), Nat.sub_self, ← List.head?_eq_getElem?] at hc
  exact hrest c hc

include hgap hword hrest

/-- A text that begins with a word has the run of the word first. -/
theorem isRun_word : IsRun (gap ++ word ++ rest) ⟨gap.length, (gap ++ word).length⟩ := by
  have hlength : 0 < word.length := List.length_pos_iff.mpr hword.1
  refine ⟨?_, ?_, fun i => solid_of_lt hword, fun i hi => ?_, blank_behind hrest⟩
  · simp only [List.length_append]
    omega
  · simp only [List.length_append]
    omega
  · have hlt : i < gap.length := by
      simp only at hi
      omega
    exact blank_of_lt hgap hlt

/-- Another run does not begin before the word has ended. -/
theorem eq_of_isRun_lt {place : Place} (h : IsRun (gap ++ word ++ rest) place)
    (hlt : place.first < (gap ++ word).length) :
    place = ⟨gap.length, (gap ++ word).length⟩ := by
  have hnonempty := h.nonempty
  have hwithin := h.within
  have hsolid : ∀ {i}, gap.length ≤ i → i < (gap ++ word).length →
      ¬∀ c ∈ (gap ++ word ++ rest)[i]?, isBlank c = true := by
    intro i hge hlt hblank
    exact (isRun_word hgap hword hrest).not_blank hge hlt hblank
  have hge : gap.length ≤ place.first := by
    by_contra hbefore
    exact h.not_blank (Nat.le_refl _) hnonempty (blank_of_lt hgap (by omega))
  have hle : place.first ≤ gap.length := by
    by_contra hbehind
    exact hsolid (i := place.first - 1) (by omega) (by omega) (h.opens _ (by omega))
  have hpast : place.past ≤ (gap ++ word).length := by
    by_contra hbehind
    exact h.not_blank (Nat.le_of_lt hlt) (by omega) (blank_behind hrest)
  have hpast' : (gap ++ word).length ≤ place.past := by
    by_contra hbefore
    exact hsolid (by omega) (by omega) h.closes
  obtain ⟨first, past⟩ := place
  simp only at hle hge hpast hpast'
  rw [Nat.le_antisymm hle hge, Nat.le_antisymm hpast hpast']

/-- A text that begins with a word has no other runs than that of the word and those of the rest. -/
theorem isRun_append_iff {place : Place} : IsRun (gap ++ word ++ rest) place ↔
    place = ⟨gap.length, (gap ++ word).length⟩ ∨
      ∃ later, IsRun rest later ∧ later.shift (gap ++ word).length = place := by
  constructor
  · intro h
    rcases Nat.lt_trichotomy place.first (gap ++ word).length with hlt | heq | hgt
    · exact Or.inl (eq_of_isRun_lt hgap hword hrest h hlt)
    · exact (h.not_blank (Nat.le_of_eq heq) (heq ▸ h.nonempty) (blank_behind hrest)).elim
    · obtain ⟨later, rfl⟩ : ∃ later : Place, later.shift (gap ++ word).length = place := by
        have hnonempty := h.nonempty
        refine ⟨⟨place.first - (gap ++ word).length, place.past - (gap ++ word).length⟩, ?_⟩
        unfold Place.shift
        rw [Nat.sub_add_cancel (by omega), Nat.sub_add_cancel (by omega)]
      have hpos : 0 < later.first := by
        simp only [Place.shift] at hgt
        omega
      exact Or.inr ⟨later, (isRun_shift_iff hpos).mp h, rfl⟩
  · rintro (rfl | ⟨later, hlater, rfl⟩)
    · exact isRun_word hgap hword hrest
    · exact (isRun_shift_iff (hlater.first_pos hrest)).mpr hlater

end

/-- A text with a character that is no white space begins with a word. -/
theorem exists_word_append {cs rest : List Char} {c : Char} (h : cs.dropWhile isBlank = c :: rest) :
    let gap := cs.takeWhile isBlank
    let word := c :: rest.takeWhile (!isBlank ·)
    let later := rest.dropWhile (!isBlank ·)
    cs = gap ++ word ++ later ∧ Blanks gap ∧ IsWord word ∧
      ∀ d ∈ later.head?, isBlank d = true := by
  refine ⟨?_, blanks_takeWhile cs, ?_, fun d hd => ?_⟩
  · rw [List.append_assoc, List.cons_append, List.takeWhile_append_dropWhile, ← h,
      List.takeWhile_append_dropWhile]
  · have hword : c :: rest.takeWhile (!isBlank ·) ∈ words cs := by
      rw [words_cons h]
      exact List.mem_cons_self
    exact mem_words hword
  · have hstop := List.head?_dropWhile_not (!isBlank ·) rest
    rw [Option.mem_def.mp hd] at hstop
    simpa using hstop

/-- The words of a text are what stands at its runs, in their order. -/
theorem words_runs (cs : List Char) : ∃ runs : List Place,
    runs.Pairwise (fun run later => run.past < later.first) ∧
      (∀ place, place ∈ runs ↔ IsRun cs place) ∧ words cs = runs.map (Place.cut cs) := by
  induction cs using words.induct with
  | case1 cs h =>
    refine ⟨[], List.Pairwise.nil, fun place => ?_, words_eq_nil h⟩
    have hblanks : Blanks cs := List.dropWhile_eq_nil_iff.mp h
    exact iff_of_false List.not_mem_nil (IsRun.not_of_blanks hblanks)
  | case2 cs c rest h ih =>
    obtain ⟨runs, hsorted, hruns, hwords⟩ := ih
    obtain ⟨hcs, hgap, hword, hrest⟩ := exists_word_append h
    rw [words_cons h, hwords]
    generalize cs.takeWhile isBlank = gap at hcs hgap
    generalize c :: rest.takeWhile (!isBlank ·) = word at hcs hword ⊢
    generalize rest.dropWhile (!isBlank ·) = later at hcs hrest hruns ⊢
    subst hcs
    refine ⟨⟨gap.length, (gap ++ word).length⟩ :: runs.map (Place.shift (gap ++ word).length),
      ?_, fun place => ?_, ?_⟩
    · rw [List.pairwise_cons, List.pairwise_map]
      refine ⟨fun place hplace => ?_, hsorted.imp fun hlt => ?_⟩
      · obtain ⟨run, hrun, rfl⟩ := List.mem_map.mp hplace
        have hpos := ((hruns run).mp hrun).first_pos hrest
        simp only [Place.shift]
        omega
      · simp only [Place.shift]
        omega
    · rw [isRun_append_iff hgap hword hrest, List.mem_cons, List.mem_map]
      simp only [hruns]
    · rw [List.map_cons, List.map_map]
      congr 1
      · unfold Place.cut
        simp only [List.append_assoc, List.length_append, Nat.add_sub_cancel_left, List.drop_left,
          List.take_left]
      · refine List.map_congr_left fun run _ => ?_
        exact (Place.cut_shift (gap ++ word) later run).symm

/-- The words put together are the text without its white space. -/
theorem flatten_words (cs : List Char) : (words cs).flatten = cs.filter (!isBlank ·) := by
  induction cs using words.induct with
  | case1 cs h =>
    have hblanks : Blanks cs := List.dropWhile_eq_nil_iff.mp h
    rw [words_eq_nil h, eq_comm]
    exact List.filter_eq_nil_iff.mpr fun c hc => by simp [hblanks c hc]
  | case2 cs c rest h ih =>
    obtain ⟨hcs, hgap, hword, -⟩ := exists_word_append h
    have hskip : (cs.takeWhile isBlank).filter (!isBlank ·) = [] :=
      List.filter_eq_nil_iff.mpr fun d hd => by simp [hgap d hd]
    have hkeep : (c :: rest.takeWhile (!isBlank ·)).filter (!isBlank ·) =
        c :: rest.takeWhile (!isBlank ·) :=
      List.filter_eq_self.mpr fun d hd => by simp [hword.2 d hd]
    have hsplit := congrArg (List.filter (!isBlank ·)) hcs
    rw [List.filter_append, List.filter_append, hskip, hkeep, List.nil_append, ← ih] at hsplit
    rw [words_cons h, List.flatten_cons]
    exact hsplit.symm

end Text

namespace Command

open Text (Blanks IsWord words isBlank Place IsRun)

/-- The characters of a line that are no white space. -/
def solid (line : String) : List Char := line.toList.filter (!isBlank ·)

/-- A line has its marker exactly if that is the last of its characters but for white space. -/
theorem isMarked_iff (line : String) :
    (∃ before, beforeMarker? line.toList = some before) ↔
      (solid line).getLast? = some backgroundMarker := by
  have hlast : (solid line).getLast? = line.toList.reverse.find? (!isBlank ·) := by
    unfold solid
    rw [List.getLast?_eq_head?_reverse, ← List.filter_reverse, List.head?_filter]
  rw [hlast, List.find?_eq_some_iff_append]
  constructor
  · rintro ⟨before, hbefore⟩
    obtain ⟨after, hafter, hline⟩ := beforeMarker?_eq_some_iff.mp hbefore
    refine ⟨by decide, after.reverse, before.reverse, ?_, fun c hc => ?_⟩
    · rw [hline, List.reverse_append, List.reverse_cons, List.append_assoc]
      rfl
    · simp [hafter c (List.mem_reverse.mp hc)]
  · rintro ⟨-, after, before, hline, hafter⟩
    refine ⟨before.reverse, beforeMarker?_eq_some_iff.mpr ⟨after.reverse, fun c hc => ?_, ?_⟩⟩
    · simpa using hafter c (List.mem_reverse.mp hc)
    · have hback := congrArg List.reverse hline
      rw [List.reverse_reverse, List.reverse_append, List.reverse_cons, List.append_assoc] at hback
      exact hback

/-- A line without its marker is what stands before the marker, or all of it. -/
theorem unmarked_eq {line text : List Char} {isBackground : Bool}
    (h : unmarked line = (text, isBackground)) :
    (isBackground = true ↔ ∃ before, beforeMarker? line = some before) ∧
      (isBackground = true → ∃ after, Blanks after ∧ line = text ++ backgroundMarker :: after) ∧
      (isBackground = false → text = line) := by
  unfold unmarked at h
  cases hbefore : beforeMarker? line with
  | some before =>
    rw [hbefore] at h
    cases h
    exact ⟨iff_of_true rfl ⟨_, rfl⟩, fun _ => beforeMarker?_eq_some_iff.mp hbefore,
      fun h => nomatch h⟩
  | none =>
    rw [hbefore] at h
    cases h
    exact ⟨iff_of_false Bool.false_ne_true (by rintro ⟨before, h⟩; cases h), fun h => (nomatch h),
      fun _ => rfl⟩

theorem solid_eq_nil_iff {line : String} : solid line = [] ↔ Blanks line.toList := by
  unfold solid
  rw [List.filter_eq_nil_iff]
  simp only [Bool.not_eq_true', Bool.not_eq_false, Blanks]

/-- No command is a line of white space, with one marker in it or none. -/
theorem parse_eq_empty_iff (line : String) : parse line = .error .empty ↔
    solid line = [] ∨ solid line = [backgroundMarker] := by
  have hmarker : solid line = [backgroundMarker] ↔ ∃ before after, Blanks before ∧ Blanks after ∧
      line.toList = before ++ backgroundMarker :: after := by
    unfold solid
    rw [List.filter_eq_cons_iff]
    constructor
    · rintro ⟨before, after, hline, hbefore, -, hafter⟩
      rw [List.filter_eq_nil_iff] at hafter
      exact ⟨before, after, fun c hc => by simpa using hbefore c hc,
        fun c hc => by simpa using hafter c hc, hline⟩
    · rintro ⟨before, after, hbefore, hafter, hline⟩
      exact ⟨before, after, hline, fun c hc => by simp [hbefore c hc], by decide,
        List.filter_eq_nil_iff.mpr fun c hc => by simp [hafter c hc]⟩
  rw [solid_eq_nil_iff, hmarker]
  exact blank_iff

/-- **The grammar of a line.**  A line is no command exactly if it has no character but white space,
or the marker alone.  Any other is a command: it is run in the background exactly if its last
character but for white space is the marker, and its text is then what stands before that, else the
line; its arguments are what stands at the runs of the text, in their order, so each is a word and
together they are the text without its white space; its name is the first of them. -/
theorem parse_decomposes (line : String) :
    (parse line = .error .empty ↔ solid line = [] ∨ solid line = [backgroundMarker]) ∧
    ∀ cmd, parse line = .ok cmd →
      (cmd.isBackground = true ↔ (solid line).getLast? = some backgroundMarker) ∧
      (cmd.isBackground = true → ∃ after : String, Blanks after.toList ∧
        line = cmd.rawText ++ "&" ++ after) ∧
      (cmd.isBackground = false → cmd.rawText = line) ∧
      (∃ runs : List Place, runs.Pairwise (fun run later => run.past < later.first) ∧
        (∀ place, place ∈ runs ↔ IsRun cmd.rawText.toList place) ∧
        cmd.arguments = runs.map fun run => String.ofList (run.cut cmd.rawText.toList)) ∧
      (∀ argument ∈ cmd.arguments, IsWord argument.toList) ∧
      String.join cmd.arguments = String.ofList (solid cmd.rawText) ∧
      cmd.arguments[0]? = some cmd.name ∧
      cmd.argumentCount = cmd.arguments.length ∧ 1 ≤ cmd.argumentCount := by
  refine ⟨parse_eq_empty_iff line, fun cmd hparse => ?_⟩
  obtain ⟨hmarker, hwords⟩ := parse_eq_ok_iff.mp hparse
  have harguments : ∀ argument ∈ cmd.arguments, argument.toList ∈ words cmd.rawText.toList := by
    intro argument hargument
    rw [hwords]
    exact List.mem_map_of_mem hargument
  obtain ⟨runs, hsorted, hruns, hcut⟩ := Text.words_runs cmd.rawText.toList
  refine ⟨?_, fun hback => ?_, fun hfore => ?_, ⟨runs, hsorted, hruns, ?_⟩,
    fun argument hargument => Text.mem_words (harguments argument hargument), ?_, rfl, rfl,
    Nat.succ_le_succ (Nat.zero_le _)⟩
  · rw [← isMarked_iff, ← (unmarked_eq hmarker).1]
  · obtain ⟨after, hafter, hline⟩ := (unmarked_eq hmarker).2.1 hback
    refine ⟨String.ofList after, by rwa [String.toList_ofList], String.toList_injective ?_⟩
    rw [hline]
    simp [backgroundMarker]
  · exact String.toList_injective ((unmarked_eq hmarker).2.2 hfore)
  · refine (List.map_inj_right fun _ _ => String.toList_injective).mp ?_
    rw [← hwords, hcut, List.map_map]
    exact List.map_congr_left fun run _ => (String.toList_ofList).symm
  · refine String.toList_injective ?_
    rw [String.toList_join, String.toList_ofList, List.flatMap_def, ← hwords]
    exact Text.flatten_words _

/-- Of two markers the first is a word, also if it is the only one. -/
example : parse " & &\t" = .ok ⟨" & ", "&", [], true⟩ := by cbv

end Command

end JobShell
