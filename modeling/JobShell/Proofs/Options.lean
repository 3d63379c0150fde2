import JobShell.Flags

/-!
# Reading the options

An argument is no option, an option that stands for itself, or one that takes the argument behind
it; only the last can fail, when it stands at the end (`Flags.scan_induction`).  What is set before
does not change how the arguments are read (`Flags.scan_outcome`); it stays set unless they set the
same option again (`Flags.value?_scan`).  The value that an option comes to is the last that was
given (`Flags.last_given`).

Seen from the left, one more argument sets an option, makes the reading lack a value, or is the
value that it lacks (`Flags.advance`), and reading is a fold of that (`Flags.scan_eq_foldl`).  So
arguments can be read in two parts, wherever they are cut (`Flags.scan_composes`).
-/

namespace JobShell

namespace Flag

theorem eq_of_ofArgument? {argument : String} {flag : Flag} (h : ofArgument? argument = some flag) :
    argument = flag.short ∨ argument = flag.long := by
  simpa using List.find?_some h

theorem takesValue_iff {flag : Flag} : flag.takesValue = true ↔ flag = .command := by
  cases flag <;> decide

theorem ofArgument?_eq_some_iff {argument : String} {flag : Flag} :
    ofArgument? argument = some flag ↔ argument = flag.short ∨ argument = flag.long := by
  refine ⟨eq_of_ofArgument?, ?_⟩
  rintro (rfl | rfl) <;> cases flag <;> decide

end Flag

namespace Flags

theorem value?_set (flags : Flags) (flag other : Flag) (value : String) :
    (flags.set flag value).value? other =
      if other = flag then some value else flags.value? other := by
  cases flag <;> cases other <;> rfl

/-! ## One argument -/

section

variable {argument : String}

theorem scan_other (h : Flag.ofArgument? argument = none) (flags : Flags) (rest : List String) :
    scan flags (argument :: rest) = scan flags rest := by
  rw [scan]
  simp only [h]

variable {flag : Flag} (h : Flag.ofArgument? argument = some flag)

include h

theorem scan_switch (hplain : flag.takesValue = false) (flags : Flags) (rest : List String) :
    scan flags (argument :: rest) = scan (flags.set flag "true") rest := by
  rw [scan]
  simp only [h, hplain, Bool.false_eq_true, if_false]

theorem scan_missing (hvalued : flag.takesValue = true) (flags : Flags) :
    scan flags [argument] = (flags, .error (missingValue argument)) := by
  rw [scan]
  simp only [h, hvalued, if_true]

theorem scan_value (hvalued : flag.takesValue = true) (flags : Flags) (value : String)
    (rest : List String) :
    scan flags (argument :: value :: rest) = scan (flags.set flag value) rest := by
  rw [scan]
  simp only [h, hvalued, if_true]

end

/-- What holds of no arguments, and of more arguments if it holds of those that are read after the
first, holds of all arguments. -/
theorem scan_induction {motive : List String → Prop} (nil : motive [])
    (other : ∀ argument rest, Flag.ofArgument? argument = none → motive rest →
      motive (argument :: rest))
    (switch : ∀ argument flag rest, Flag.ofArgument? argument = some flag →
      flag.takesValue = false → motive rest → motive (argument :: rest))
    (missing : ∀ argument flag, Flag.ofArgument? argument = some flag → flag.takesValue = true →
      motive [argument])
    (value : ∀ argument flag value rest, Flag.ofArgument? argument = some flag →
      flag.takesValue = true → motive rest → motive (argument :: value :: rest))
    (args : List String) : motive args := by
  induction hn : args.length using Nat.strongRecOn generalizing args with
  | _ n ih =>
    have hshorter : ∀ rest : List String, rest.length < args.length → motive rest :=
      fun rest hrest => ih rest.length (hn ▸ hrest) rest rfl
    cases args with
    | nil => exact nil
    | cons argument rest =>
      cases hflag : Flag.ofArgument? argument with
      | none => exact other argument rest hflag (hshorter rest (by simp))
      | some flag =>
        cases hvalued : flag.takesValue with
        | false => exact switch argument flag rest hflag hvalued (hshorter rest (by simp))
        | true =>
          cases rest with
          | nil => exact missing argument flag hflag hvalued
          | cons given rest =>
            have hrest : rest.length < (argument :: given :: rest).length := by
              rw [List.length_cons, List.length_cons]
              omega
            exact value argument flag given rest hflag hvalued (hshorter rest hrest)

/-! ## All arguments -/

/-- Whether the arguments can be read does not depend on what is set before. -/
theorem scan_outcome (flags other : Flags) (args : List String) :
    (scan flags args).2 = (scan other args).2 := by
  induction args using scan_induction generalizing flags other with
  | nil => rfl
  | other argument rest hflag ih => rw [scan_other hflag, scan_other hflag, ih]
  | switch argument flag rest hflag hplain ih =>
    rw [scan_switch hflag hplain, scan_switch hflag hplain, ih]
  | missing argument flag hflag hvalued =>
    rw [scan_missing hflag hvalued, scan_missing hflag hvalued]
  | value argument flag value rest hflag hvalued ih =>
    rw [scan_value hflag hvalued, scan_value hflag hvalued, ih]

/-- An option has the value that the arguments give it, or else the one it had before. -/
theorem value?_scan (flags : Flags) (args : List String) (option : Flag) :
    (scan flags args).1.value? option =
      ((scan {} args).1.value? option).or (flags.value? option) := by
  -- setting an option first is the same on both sides
  have hset : ∀ (flags : Flags) (flag : Flag) (value : String),
      (flags.set flag value).value? option =
        ((({} : Flags).set flag value).value? option).or (flags.value? option) := by
    intro flags flag value
    have hunset : ({} : Flags).value? option = none := by cases option <;> rfl
    rw [value?_set, value?_set, hunset]
    split <;> rfl
  induction args using scan_induction generalizing flags with
  | nil =>
    show flags.value? option = (({} : Flags).value? option).or (flags.value? option)
    cases option <;> rfl
  | other argument rest hflag ih => rw [scan_other hflag, scan_other hflag, ih]
  | switch argument flag rest hflag hplain ih =>
    rw [scan_switch hflag hplain, scan_switch hflag hplain, ih, ih (({} : Flags).set flag "true"),
      hset, Option.or_assoc]
  | missing argument flag hflag hvalued =>
    rw [scan_missing hflag hvalued, scan_missing hflag hvalued]
    cases option <;> rfl
  | value argument flag value rest hflag hvalued ih =>
    rw [scan_value hflag hvalued, scan_value hflag hvalued, ih, ih (({} : Flags).set flag value),
      hset, Option.or_assoc]

/-- The value that an option comes to is given where it is read as such: behind it if it takes one,
and it is not given again behind that. -/
theorem last_given {args : List String} {option : Flag} {value : String}
    (h : (scan {} args).1.value? option = some value) : ∃ before argument given after,
      args = before ++ argument :: given ++ after ∧
      (argument = option.short ∨ argument = option.long) ∧
      (scan {} before).2 = .ok () ∧ (scan {} after).1.value? option = none ∧
      (if option.takesValue then given = [value] else given = [] ∧ value = "true") := by
  -- what is read first gives the option its value, unless that is given again
  have hfirst : ∀ {flag : Flag} {text : String} {rest : List String},
      (scan (({} : Flags).set flag text) rest).1.value? option = some value →
      (scan {} rest).1.value? option = none → option = flag ∧ text = value := by
    intro flag text rest hset hlater
    have hunset : ({} : Flags).value? option = none := by cases option <;> rfl
    rw [value?_scan, hlater, Option.none_or, value?_set, hunset] at hset
    split at hset
    · exact ⟨‹_›, Option.some.inj hset⟩
    · cases hset
  induction args using scan_induction with
  | nil => cases option <;> cases h
  | other argument rest hflag ih =>
    rw [scan_other hflag] at h
    obtain ⟨before, spelled, given, after, rfl, hspelled, hread, hlast⟩ := ih h
    exact ⟨argument :: before, spelled, given, after, rfl, hspelled, by rwa [scan_other hflag],
      hlast⟩
  | switch argument flag rest hflag hplain ih =>
    rw [scan_switch hflag hplain] at h
    cases hlater : (scan {} rest).1.value? option with
    | some other =>
      rw [value?_scan, hlater] at h
      rw [hlater] at ih
      obtain ⟨before, spelled, given, after, rfl, hspelled, hread, hlast⟩ := ih h
      refine ⟨argument :: before, spelled, given, after, rfl, hspelled, ?_, hlast⟩
      rwa [scan_switch hflag hplain, scan_outcome _ {}]
    | none =>
      obtain ⟨rfl, rfl⟩ := hfirst h hlater
      refine ⟨[], argument, [], rest, rfl, Flag.eq_of_ofArgument? hflag, rfl, hlater, ?_⟩
      rw [if_neg (by rw [hplain]; exact Bool.false_ne_true)]
      exact ⟨rfl, rfl⟩
  | missing argument flag hflag hvalued =>
    rw [scan_missing hflag hvalued] at h
    cases option <;> cases h
  | value argument flag text rest hflag hvalued ih =>
    rw [scan_value hflag hvalued] at h
    cases hlater : (scan {} rest).1.value? option with
    | some other =>
      rw [value?_scan, hlater] at h
      rw [hlater] at ih
      obtain ⟨before, spelled, given, after, rfl, hspelled, hread, hlast⟩ := ih h
      refine ⟨argument :: text :: before, spelled, given, after, rfl, hspelled, ?_, hlast⟩
      rwa [scan_value hflag hvalued, scan_outcome _ {}]
    | none =>
      obtain ⟨rfl, rfl⟩ := hfirst h hlater
      refine ⟨[], argument, [text], rest, rfl, Flag.eq_of_ofArgument? hflag, rfl, hlater, ?_⟩
      rw [if_pos hvalued]

/-- A command line that the arguments give stands behind its option, which is read as such, and no
other is given behind it. -/
theorem last_command {args : List String} {line : String}
    (h : (scan {} args).1.command = some line) : ∃ before option after,
      args = before ++ option :: line :: after ∧ (option = "-c" ∨ option = "--command") ∧
      (scan {} before).2 = .ok () ∧ (scan {} after).1.command = none := by
  have hcommand : (scan {} args).1.value? .command = some line := h
  obtain ⟨before, option, given, after, hargs, hoption, hread, hlast, hgiven⟩ :=
    last_given hcommand
  obtain rfl : given = [line] := hgiven
  exact ⟨before, option, after, hargs.trans (List.append_assoc _ _ _), hoption, hread, hlast⟩

/-! ## One argument after the other -/

/-- What one more argument makes of a reading: an option that lacks its value takes it, whatever it
is. -/
def advance : Flags × Except ShellError Unit → String → Flags × Except ShellError Unit
  | (flags, .ok ()), argument => scan flags [argument]
  | (flags, .error _), argument => (flags.set .command argument, .ok ())

/-- Reading is a fold. -/
theorem scan_eq_foldl (flags : Flags) (args : List String) :
    scan flags args = args.foldl advance (flags, .ok ()) := by
  induction args using scan_induction generalizing flags with
  | nil => rfl
  | other argument rest hflag ih =>
    have hone : advance (flags, .ok ()) argument = (flags, .ok ()) := scan_other hflag flags []
    rw [scan_other hflag, ih, List.foldl_cons, hone]
  | switch argument flag rest hflag hplain ih =>
    have hone : advance (flags, .ok ()) argument = (flags.set flag "true", .ok ()) :=
      scan_switch hflag hplain flags []
    rw [scan_switch hflag hplain, ih, List.foldl_cons, hone]
  | missing argument flag hflag hvalued => rfl
  | value argument flag value rest hflag hvalued ih =>
    obtain rfl := Flag.takesValue_iff.mp hvalued
    have hone : advance (flags, .ok ()) argument = (flags, .error (missingValue argument)) :=
      scan_missing hflag hvalued flags
    rw [scan_value hflag hvalued, ih, List.foldl_cons, List.foldl_cons, hone]
    rfl

section

variable {flags : Flags} {args : List String}

theorem scan_append (h : (scan flags args).2 = .ok ()) (more : List String) :
    scan flags (args ++ more) = scan (scan flags args).1 more := by
  have hread : scan flags args = ((scan flags args).1, .ok ()) := Prod.ext rfl h
  rw [scan_eq_foldl flags, List.foldl_append, ← scan_eq_foldl, hread, ← scan_eq_foldl]

/-- The argument behind an option that lacks its value is that value. -/
theorem scan_append_value {error : ShellError} (h : (scan flags args).2 = .error error)
    (value : String) (more : List String) :
    scan flags (args ++ value :: more) = scan ((scan flags args).1.set .command value) more := by
  have hread : scan flags args = ((scan flags args).1, .error error) := Prod.ext rfl h
  rw [scan_eq_foldl flags, List.foldl_append, ← scan_eq_foldl, hread, List.foldl_cons,
    scan_eq_foldl (Flags.set _ _ _)]
  rfl

end

/-- One argument alone cannot be read if it is an option that takes a value. -/
theorem scan_single_error {flags : Flags} {argument : String} {error : ShellError}
    (h : (scan flags [argument]).2 = .error error) :
    (argument = "-c" ∨ argument = "--command") ∧ error = missingValue argument ∧
      (scan flags [argument]).1 = flags := by
  cases hflag : Flag.ofArgument? argument with
  | none =>
    rw [scan_other hflag] at h
    cases h
  | some flag =>
    cases hvalued : flag.takesValue with
    | false =>
      rw [scan_switch hflag hvalued] at h
      cases h
    | true =>
      obtain rfl := Flag.takesValue_iff.mp hvalued
      rw [scan_missing hflag hvalued] at h ⊢
      exact ⟨Flag.eq_of_ofArgument? hflag, (Except.error.inj h).symm, rfl⟩

theorem scan_single_ok_iff {flags : Flags} {argument : String} :
    (scan flags [argument]).2 = .ok () ↔ ¬(argument = "-c" ∨ argument = "--command") := by
  constructor
  · intro h hoption
    have hflag : Flag.ofArgument? argument = some .command :=
      Flag.ofArgument?_eq_some_iff.mpr hoption
    rw [scan_missing hflag rfl] at h
    cases h
  · intro h
    cases houtcome : (scan flags [argument]).2 with
    | ok _ => rfl
    | error error => exact absurd (scan_single_error houtcome).1 h

/-- Arguments that cannot be read end in an option that lacks its value; the others can be read. -/
theorem scan_error {flags : Flags} {args : List String} {error : ShellError}
    (h : (scan flags args).2 = .error error) : ∃ before argument,
      args = before ++ [argument] ∧ (argument = "-c" ∨ argument = "--command") ∧
      scan flags before = ((scan flags args).1, .ok ()) ∧ error = missingValue argument := by
  rcases args.eq_nil_or_concat with rfl | ⟨before, argument, hargs⟩
  · cases h
  · rw [List.concat_eq_append] at hargs
    subst hargs
    cases hbefore : (scan flags before).2 with
    | error earlier =>
      rw [scan_append_value hbefore] at h
      cases h
    | ok _ =>
      rw [scan_append hbefore] at h ⊢
      obtain ⟨hoption, herror, hsame⟩ := scan_single_error h
      exact ⟨before, argument, rfl, hoption, Prod.ext hsame.symm hbefore, herror⟩

/-- **Reading composes.**  Behind arguments that can be read, more are read as by themselves, from
what the first have set.  Arguments that cannot be read are some that can, with an option at the end
that lacks its value, and have set what those have; behind them, the next argument is that value,
and more are read as by themselves. -/
theorem scan_composes (flags : Flags) (args : List String) :
    ((scan flags args).2 = .ok () → ∀ more : List String,
      scan flags (args ++ more) = scan (scan flags args).1 more) ∧
    (∀ error, (scan flags args).2 = .error error → ∃ before argument,
      args = before ++ [argument] ∧ (argument = "-c" ∨ argument = "--command") ∧
      scan flags before = ((scan flags args).1, .ok ()) ∧
      ∀ (value : String) (more : List String), scan flags (args ++ [value] ++ more) =
        scan ((scan flags before).1.set .command value) more) := by
  refine ⟨scan_append, fun error herror => ?_⟩
  obtain ⟨before, argument, hargs, hoption, hread, -⟩ := scan_error herror
  refine ⟨before, argument, hargs, hoption, hread, fun value more => ?_⟩
  rw [hread, List.append_assoc]
  exact scan_append_value herror value more

/-- An option that lacks its value at the end of the first part has it at the front of the second,
though that looks like an option. -/
theorem scan_composes_dangling :
    (scan {} ["-q", "-c"]).2 = .error (missingValue "-c") ∧
      scan {} (["-q", "-c"] ++ ["-c"] ++ ["-h"]) =
        ({ help := some "true", quiet := some "true", command := some "-c" }, .ok ()) := by
  have herror : (scan {} ["-q", "-c"]).2 = .error (missingValue "-c") := by rfl
  obtain ⟨before, argument, -, -, hread, hmore⟩ := (scan_composes {} ["-q", "-c"]).2 _ herror
  refine ⟨herror, ?_⟩
  rw [hmore, hread]
  rfl

end Flags

end JobShell
