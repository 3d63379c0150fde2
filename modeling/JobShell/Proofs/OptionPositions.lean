import JobShell.Proofs.Options

/-!
# The positions that are read

Of some positions the argument is read as an option or as none, and not as the value of the one
before it.  These are told by the arguments to the left (`Flags.Visited`), and are those up to which
the arguments can be read (`Flags.visited_length_iff`).

What stands at them says whether the reading fails (`Flags.scan_ok_iff`) and which options are set
(`Flags.isSet_scan_iff`, `Flags.command_scan_of_last`).
-/

namespace JobShell

namespace Flags

theorem ext_value? {flags other : Flags} (h : ∀ option, flags.value? option = other.value? option) :
    flags = other := by
  obtain ⟨help, version, quiet, debug, command⟩ := flags
  obtain rfl : help = other.help := h .help
  obtain rfl : version = other.version := h .version
  obtain rfl : quiet = other.quiet := h .quiet
  obtain rfl : debug = other.debug := h .debug
  obtain rfl : command = other.command := h .command
  rfl

/-! ## Positions -/

/-- The argument at this position is not the value of an option that is read directly before it. -/
def Visited (args : List String) : Nat → Prop
  | 0 => True
  | i + 1 => ¬(Visited args i ∧ (args[i]? = some "-c" ∨ args[i]? = some "--command"))

/-- An option that takes a value is read at this position. -/
def TakesAt (args : List String) (i : Nat) : Prop :=
  Visited args i ∧ (args[i]? = some "-c" ∨ args[i]? = some "--command")

instance decidableVisited (args : List String) : (i : Nat) → Decidable (Visited args i)
  | 0 => .isTrue trivial
  | i + 1 =>
    have := decidableVisited args i
    inferInstanceAs (Decidable ¬(_ ∧ _))

instance (args : List String) (i : Nat) : Decidable (TakesAt args i) :=
  inferInstanceAs (Decidable (_ ∧ _))

theorem exists_append_of_getElem? {args : List String} {i : Nat} {argument : String}
    (h : args[i]? = some argument) :
    ∃ before after, args = before ++ argument :: after ∧ before.length = i := by
  obtain ⟨hi, rfl⟩ := List.getElem?_eq_some_iff.mp h
  refine ⟨args.take i, args.drop (i + 1), ?_, List.length_take_of_le (Nat.le_of_lt hi)⟩
  rw [← List.drop_eq_getElem_cons hi, List.take_append_drop]

/-- A position is visited if the arguments before it can be read. -/
theorem visited_iff (flags : Flags) {args : List String} {i : Nat} (hi : i ≤ args.length) :
    Visited args i ↔ (scan flags (args.take i)).2 = .ok () := by
  induction i with
  | zero => exact iff_of_true trivial rfl
  | succ i ih =>
    have hlt : i < args.length := hi
    have hat : args[i]? = some args[i] := List.getElem?_eq_getElem hlt
    show ¬(Visited args i ∧ _) ↔ _
    rw [ih (Nat.le_of_lt hlt), hat, Option.some.injEq, Option.some.injEq,
      ← List.take_append_getElem hlt]
    cases hbefore : (scan flags (args.take i)).2 with
    | error error =>
      rw [scan_append_value hbefore]
      exact iff_of_true (fun h => nomatch h.1) rfl
    | ok _ =>
      rw [scan_append hbefore, scan_single_ok_iff]
      exact not_congr (and_iff_right rfl)

theorem visited_length_iff (flags : Flags) (before rest : List String) :
    Visited (before ++ rest) before.length ↔ (scan flags before).2 = .ok () := by
  rw [visited_iff flags (by rw [List.length_append]; exact Nat.le_add_right _ _), List.take_left]

theorem visited_succ_iff {args : List String} {i : Nat} :
    Visited args (i + 1) ↔ ¬TakesAt args i := Iff.rfl

theorem getElem?_length_add (before rest : List String) (i : Nat) :
    (before ++ rest)[before.length + i]? = rest[i]? := by
  rw [List.getElem?_append_right (Nat.le_add_right _ _), Nat.add_sub_cancel_left]

/-- Behind a visited position the rest is read as if it stood alone. -/
theorem takesAt_add_iff {before rest : List String}
    (h : Visited (before ++ rest) before.length) (i : Nat) :
    TakesAt (before ++ rest) (before.length + i) ↔ TakesAt rest i := by
  have hvisited : Visited (before ++ rest) (before.length + i) ↔ Visited rest i := by
    induction i with
    | zero => exact iff_of_true h trivial
    | succ i ih =>
      rw [← Nat.add_assoc, visited_succ_iff, visited_succ_iff]
      unfold TakesAt
      rw [ih, getElem?_length_add]
  unfold TakesAt
  rw [hvisited, getElem?_length_add]

variable {flags : Flags} {args : List String}

theorem scan_ok_iff : (scan flags args).2 = .ok () ↔
    ∀ i, TakesAt args i → i + 1 ≠ args.length := by
  have hend := visited_iff flags (Nat.le_refl args.length)
  rw [List.take_length] at hend
  rw [← hend]
  cases hlength : args.length with
  | zero => exact iff_of_true trivial fun i _ hi => nomatch hi
  | succ n =>
    show ¬TakesAt args n ↔ _
    refine ⟨fun h i htakes hi => h ?_, fun h htakes => h n htakes rfl⟩
    obtain rfl : i = n := Nat.succ.inj hi
    exact htakes

theorem scan_missing_value {i : Nat} {argument : String} (htakes : TakesAt args i)
    (hat : args[i]? = some argument) (hlast : i + 1 = args.length) :
    (scan flags args).2 = .error (missingValue argument) := by
  cases houtcome : (scan flags args).2 with
  | ok _ => exact absurd hlast (scan_ok_iff.mp houtcome i htakes)
  | error error =>
    obtain ⟨before, last, rfl, -, -, rfl⟩ := scan_error houtcome
    obtain rfl : i = before.length := by
      rw [List.length_append, List.length_singleton] at hlast
      exact Nat.succ.inj hlast
    rw [List.getElem?_concat_length, Option.some.injEq] at hat
    rw [hat]

/-- What an option was given was given at a visited position. -/
theorem given_at_visited {option : Flag} {value : String}
    (h : (scan {} args).1.value? option = some value) : ∃ i, Visited args i ∧
      (args[i]? = some option.short ∨ args[i]? = some option.long) ∧
      (option.takesValue = true → args[i + 1]? = some value) ∧
      (option.takesValue = false → value = "true") := by
  obtain ⟨before, argument, given, after, rfl, hspelled, hread, -, hgiven⟩ := last_given h
  have hat : (before ++ argument :: given ++ after)[before.length]? = some argument := by
    rw [List.append_assoc]
    exact getElem?_length_add before _ 0
  refine ⟨before.length, ?_, ?_, fun hvalued => ?_, fun hplain => ?_⟩
  · rw [List.append_assoc]
    exact (visited_length_iff {} before _).mpr hread
  · rw [hat, Option.some.injEq, Option.some.injEq]
    exact hspelled
  · rw [if_pos hvalued] at hgiven
    rw [hgiven, List.append_assoc]
    exact getElem?_length_add before _ 1
  · rw [hplain] at hgiven
    exact hgiven.2

/-- An option that takes no value is set if it was, or if it stands at a visited position. -/
theorem isSet_scan_iff {option : Flag} (hplain : option.takesValue = false) :
    (scan flags args).1.isSet option = true ↔ flags.isSet option = true ∨
      ∃ i, Visited args i ∧ (args[i]? = some option.short ∨ args[i]? = some option.long) := by
  unfold isSet
  rw [value?_scan, Option.isSome_or, Bool.or_eq_true, or_comm, Option.isSome_iff_exists
    (x := (scan {} args).1.value? option)]
  refine or_congr_right ⟨fun ⟨value, hvalue⟩ => ?_, ?_⟩
  · obtain ⟨i, hvisited, hat, -⟩ := given_at_visited hvalue
    exact ⟨i, hvisited, hat⟩
  · rintro ⟨i, hvisited, hat⟩
    obtain ⟨argument, hargument, hspelled⟩ : ∃ argument, args[i]? = some argument ∧
        Flag.ofArgument? argument = some option := by
      rcases hat with hat | hat
      · exact ⟨_, hat, Flag.ofArgument?_eq_some_iff.mpr (Or.inl rfl)⟩
      · exact ⟨_, hat, Flag.ofArgument?_eq_some_iff.mpr (Or.inr rfl)⟩
    obtain ⟨before, after, rfl, rfl⟩ := exists_append_of_getElem? hargument
    rw [visited_length_iff {}] at hvisited
    rw [scan_append hvisited, scan_switch hspelled hplain, value?_scan, value?_set, if_pos rfl]
    cases (scan {} after).1.value? option with
    | none => exact ⟨_, rfl⟩
    | some value => exact ⟨value, rfl⟩

/-- What stands behind an option that takes a value is taken. -/
theorem exists_taken {i : Nat} {line : String} (htakes : TakesAt args i)
    (hline : args[i + 1]? = some line) : ∃ before option after,
      args = before ++ [option, line] ++ after ∧ before.length = i ∧ ∀ flags : Flags,
        scan flags (before ++ [option, line]) =
          ((scan flags before).1.set .command line, .ok ()) := by
  obtain ⟨hvisited, hoption⟩ := htakes
  obtain ⟨option, hat, hvalued⟩ : ∃ option, args[i]? = some option ∧
      Flag.ofArgument? option = some .command := by
    rcases hoption with hat | hat <;> exact ⟨_, hat, by decide⟩
  obtain ⟨before, rest, rfl, rfl⟩ := exists_append_of_getElem? hat
  obtain ⟨after, rfl⟩ : ∃ after, rest = line :: after := by
    rw [getElem?_length_add] at hline
    cases rest with
    | nil => cases hline
    | cons first after => exact ⟨after, by rw [Option.some.inj hline]⟩
  refine ⟨before, option, after, ?_, rfl, fun flags => ?_⟩
  · rw [List.append_assoc]
    rfl
  · rw [scan_append ((visited_length_iff flags before _).mp hvisited), scan_value hvalued rfl]
    rfl

/-- A command line that is given is the last one, or another is given behind it. -/
theorem command_scan_of_taken {before after : List String} {option line : String}
    (htaken : scan flags (before ++ [option, line]) =
      ((scan flags before).1.set .command line, .ok ())) :
    (scan flags (before ++ [option, line] ++ after)).1.command =
      ((scan {} after).1.command).or (some line) := by
  rw [scan_append (congrArg (·.2) htaken), htaken]
  exact value?_scan _ after .command

/-- The command line is what stands behind the last option that has one behind it. -/
theorem command_scan_of_last {i : Nat} {line : String} (htakes : TakesAt args i)
    (hline : args[i + 1]? = some line)
    (hlast : ∀ j, i < j → TakesAt args j → args[j + 1]? = none) :
    (scan flags args).1.command = some line := by
  obtain ⟨before, option, after, rfl, rfl, htaken⟩ := exists_taken htakes hline
  have hstart : Visited (before ++ [option, line] ++ after) (before ++ [option, line]).length :=
    (visited_length_iff flags _ _).mpr (congrArg (·.2) (htaken flags))
  have hunset : (scan {} after).1.command = none := by
    rw [Option.eq_none_iff_forall_ne_some]
    intro other hother
    have hgiven : (scan {} after).1.value? .command = some other := hother
    obtain ⟨j, hj, hjat, hjvalue, -⟩ := given_at_visited hgiven
    have hlater : before.length < (before ++ [option, line]).length + j := by
      simp only [List.length_append, List.length_cons]
      omega
    have hnone := hlast _ hlater ((takesAt_add_iff hstart j).mpr ⟨hj, hjat⟩)
    rw [Nat.add_assoc, getElem?_length_add, hjvalue rfl] at hnone
    cases hnone
  rw [command_scan_of_taken (htaken flags), hunset]
  rfl

theorem command_scan_of_none (h : ∀ i, TakesAt args i → args[i + 1]? = none) :
    (scan flags args).1.command = flags.command := by
  have hunset : (scan {} args).1.value? .command = none := by
    rw [Option.eq_none_iff_forall_ne_some]
    intro line hline
    obtain ⟨i, hvisited, hat, hvalue, -⟩ := given_at_visited hline
    have hnone := h i ⟨hvisited, hat⟩
    rw [hvalue rfl] at hnone
    cases hnone
  show (scan flags args).1.value? .command = _
  rw [value?_scan, hunset, Option.none_or]
  rfl

/-- An argument that is no option, where one could stand, may be left out. -/
theorem scan_without_other {before rest : List String} {argument : String}
    (hvisited : Visited (before ++ argument :: rest) before.length)
    (hother : ∀ option : Flag, argument ≠ option.short ∧ argument ≠ option.long) :
    scan flags (before ++ argument :: rest) = scan flags (before ++ rest) := by
  have hflag : Flag.ofArgument? argument = none := by
    rw [Option.eq_none_iff_forall_ne_some]
    intro option hoption
    rcases Flag.eq_of_ofArgument? hoption with h | h
    · exact (hother option).1 h
    · exact (hother option).2 h
  have hbefore := (visited_length_iff flags before _).mp hvisited
  rw [scan_append hbefore, scan_append hbefore, scan_other hflag]

/-- A value is as good as any other if an option that has a value stands behind it. -/
theorem scan_value_replaced {before rest : List String} {value : String}
    (hvalue : ¬Visited (before ++ value :: rest) before.length) {j : Nat}
    (hj : before.length < j) (htakes : TakesAt (before ++ value :: rest) j) {line : String}
    (hline : (before ++ value :: rest)[j + 1]? = some line) (other : String) :
    scan flags (before ++ other :: rest) = scan flags (before ++ value :: rest) := by
  obtain ⟨error, herror⟩ : ∃ error, (scan flags before).2 = .error error := by
    rw [visited_length_iff flags] at hvalue
    cases houtcome : (scan flags before).2 with
    | ok _ => exact absurd houtcome hvalue
    | error error => exact ⟨error, rfl⟩
  -- the later option stands in what is read behind the value, and sets the command line again
  obtain ⟨k, rfl⟩ := Nat.exists_eq_add_of_lt hj
  have hsplit : before ++ value :: rest = before ++ [value] ++ rest := by
    rw [List.append_assoc, List.singleton_append]
  have hlength : before.length + k + 1 = (before ++ [value]).length + k := by
    rw [List.length_append, List.length_singleton, Nat.add_right_comm]
  have hstart : Visited (before ++ [value] ++ rest) (before ++ [value]).length := by
    rw [visited_length_iff flags, scan_append_value herror]
    rfl
  rw [hsplit, hlength] at htakes hline
  rw [Nat.add_assoc, getElem?_length_add] at hline
  have hgiven : (scan {} rest).1.command ≠ none := by
    obtain ⟨_, _, _, hrest, -, htaken⟩ :=
      exists_taken ((takesAt_add_iff hstart k).mp htakes) hline
    rw [hrest, command_scan_of_taken (htaken {})]
    exact fun h => nomatch (Option.or_eq_none_iff.mp h).2
  rw [scan_append_value herror, scan_append_value herror]
  refine Prod.ext (ext_value? fun option => ?_) (scan_outcome _ _ rest)
  rw [value?_scan, value?_scan (Flags.set _ _ _), value?_set, value?_set]
  by_cases hoption : option = .command
  · subst hoption
    cases hset : (scan {} rest).1.value? .command with
    | none => exact absurd hset hgiven
    | some line => rfl
  · rw [if_neg hoption, if_neg hoption]

end Flags

end JobShell
