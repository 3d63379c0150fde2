import JobShell.Proofs.OptionPositions
import Mathlib.Data.List.Nodup

/-!
# The table of options

A table has the options in some order, each once, with its value, and is gone through in that order
wherever an option is looked up (`Flags.Table.parse`).  The order has no part in what is read:
values and outcome are those of `Flags.scan` (`Flags.Table.parse_eq_scan`), and so they are told by
what stands at the positions that are read (`Flags.Table.parse_reads_visited`).
-/

namespace JobShell

namespace Flag

theorem name_injective : Function.Injective name := by
  intro flag other h
  cases flag <;> cases other <;> first | rfl | exact absurd h (by decide)

theorem mem_all (flag : Flag) : flag ∈ all := by
  cases flag <;> decide

theorem nodup_all : all.Nodup := by decide

theorem takesValue_eq_false {flag : Flag} (h : flag ≠ .command) : flag.takesValue = false :=
  eq_false_of_ne_true fun hvalued => h (takesValue_iff.mp hvalued)

end Flag

namespace Flags

/-- The options, each once, with their values, in the order in which they are gone through. -/
structure Table where
  rows : List (Flag × Option String)
  each_once : (rows.map (·.1)).Perm Flag.all

namespace Table

/-- The first row, in the order of the table, whose option the argument spells. -/
def find? (table : Table) (argument : String) : Option (Flag × Option String) :=
  table.rows.find? fun row => argument == row.1.short || argument == row.1.long

/-- The value of the option with this name. -/
def get? (table : Table) (name : String) : Option String :=
  (table.rows.find? (·.1.name == name)).bind (·.2)

def set (table : Table) (flag : Flag) (value : String) : Table where
  rows := table.rows.map fun row => (row.1, if row.1 = flag then some value else row.2)
  each_once := by
    rw [List.map_map]
    exact table.each_once

/-- What the table says of each option. -/
def flags (table : Table) : Flags where
  help := table.get? Flag.help.name
  version := table.get? Flag.version.name
  quiet := table.get? Flag.quiet.name
  debug := table.get? Flag.debug.name
  command := table.get? Flag.command.name

/-- Reads the arguments from a position on, looking up the option at each. -/
def parseFrom (args : List String) (i : Nat) (table : Table) : Table × Except ShellError Unit :=
  match _hat : args[i]? with
  | none => (table, .ok ())
  | some argument =>
    match table.find? argument with
    | none => parseFrom args (i + 1) table
    | some row =>
      if row.1.takesValue then
        match args[i + 1]? with
        | none => (table, .error (missingValue argument))
        | some value => parseFrom args (i + 2) (table.set row.1 value)
      else parseFrom args (i + 1) (table.set row.1 "true")
termination_by args.length - i
decreasing_by
  all_goals
    have hlt := (List.getElem?_eq_some_iff.mp _hat).1
    omega

def parse (table : Table) (args : List String) : Table × Except ShellError Unit :=
  parseFrom args 0 table

/-- A table that comes of a new one by reading arguments and by copying, which may change the
order. -/
inductive Reached : Table → Prop
  | new {table : Table} (hunset : ∀ row ∈ table.rows, row.2 = none) : Reached table
  | parse {table : Table} (h : Reached table) (args : List String) : Reached (table.parse args).1
  | clone {table copy : Table} (h : Reached table) (hcopy : copy.rows.Perm table.rows) :
      Reached copy

/-! ### What a table says -/

theorem value?_flags (table : Table) (option : Flag) :
    table.flags.value? option = table.get? option.name := by
  cases option <;> rfl

theorem exists_row (table : Table) (option : Flag) : ∃ value, (option, value) ∈ table.rows := by
  have hmem := table.each_once.mem_iff.mpr option.mem_all
  obtain ⟨⟨_, value⟩, hrow, rfl⟩ := List.mem_map.mp hmem
  exact ⟨value, hrow⟩

theorem row_unique (table : Table) {row other : Flag × Option String} (hrow : row ∈ table.rows)
    (hother : other ∈ table.rows) (h : row.1 = other.1) : row = other :=
  List.inj_on_of_nodup_map (table.each_once.nodup_iff.mpr Flag.nodup_all) hrow hother h

/-- Whatever its order, a table says of an option what stands in its row. -/
theorem value?_flags_iff (table : Table) {option : Flag} {value : Option String} :
    table.flags.value? option = value ↔ (option, value) ∈ table.rows := by
  obtain ⟨given, hgiven⟩ := table.exists_row option
  have hvalue : table.flags.value? option = given := by
    rw [value?_flags]
    unfold get?
    cases hfound : table.rows.find? (·.1.name == option.name) with
    | none => exact absurd (beq_self_eq_true option.name) (List.find?_eq_none.mp hfound _ hgiven)
    | some row =>
      have hname : row.1.name = option.name := by simpa using List.find?_some hfound
      rw [table.row_unique (List.mem_of_find?_eq_some hfound) hgiven (Flag.name_injective hname)]
      rfl
  rw [hvalue]
  constructor
  · rintro rfl
    exact hgiven
  · intro hrow
    exact congrArg (·.2) (table.row_unique hgiven hrow rfl)

/-- Tables say the same if they differ in their order only. -/
theorem perm_iff_flags_eq {table other : Table} :
    other.rows.Perm table.rows ↔ other.flags = table.flags := by
  have hnodup : ∀ table : Table, table.rows.Nodup := fun table =>
    (table.each_once.nodup_iff.mpr Flag.nodup_all).of_map _
  rw [List.perm_ext_iff_of_nodup (hnodup other) (hnodup table)]
  constructor
  · intro h
    refine ext_value? fun option => ?_
    exact other.value?_flags_iff.mpr ((h (option, _)).mpr (table.value?_flags_iff.mp rfl))
  · rintro h ⟨option, value⟩
    rw [← value?_flags_iff, ← value?_flags_iff, h]

theorem flags_set (table : Table) (flag : Flag) (value : String) :
    (table.set flag value).flags = table.flags.set flag value := by
  refine ext_value? fun option => ?_
  rw [value?_flags_iff, value?_set]
  exact List.mem_map.mpr ⟨_, table.value?_flags_iff.mp rfl, rfl⟩

/-- Whatever its order, a table finds the option that an argument spells. -/
theorem ofArgument?_of_find? {table : Table} {argument : String}
    {found : Option (Flag × Option String)} (h : table.find? argument = found) :
    Flag.ofArgument? argument = found.map (·.1) := by
  cases found with
  | none =>
    rw [Option.map_none, Option.eq_none_iff_forall_ne_some]
    intro option hoption
    obtain ⟨value, hrow⟩ := table.exists_row option
    have hmissed := List.find?_eq_none.mp h _ hrow
    exact hmissed (by simpa using Flag.eq_of_ofArgument? hoption)
  | some row =>
    have hspelled : argument = row.1.short ∨ argument = row.1.long := by
      simpa using List.find?_some h
    exact Flag.ofArgument?_eq_some_iff.mpr hspelled

/-! ### Reading -/

/-- From each position on, what is read is what `scan` reads of the rest. -/
theorem parseFrom_eq_scan (args : List String) (i : Nat) (table : Table) :
    ((parseFrom args i table).1.flags, (parseFrom args i table).2) =
      scan table.flags (args.drop i) := by
  have hat : ∀ {i : Nat} {argument : String}, args[i]? = some argument →
      args.drop i = argument :: args.drop (i + 1) := fun hi => by
    obtain ⟨hlt, rfl⟩ := List.getElem?_eq_some_iff.mp hi
    exact List.drop_eq_getElem_cons hlt
  fun_induction parseFrom args i table with
  | case1 i table hend =>
    rw [List.drop_of_length_le (List.getElem?_eq_none_iff.mp hend)]
    rfl
  | case2 i table argument hargument hother ih =>
    rw [ih, hat hargument, scan_other (ofArgument?_of_find? hother)]
  | case3 i table argument hargument row hrow hvalued hend =>
    rw [hat hargument, List.drop_of_length_le (List.getElem?_eq_none_iff.mp hend),
      scan_missing (ofArgument?_of_find? hrow) hvalued]
  | case4 i table argument hargument row hrow hvalued value hvalue ih =>
    rw [ih, hat hargument, hat hvalue, scan_value (ofArgument?_of_find? hrow) hvalued, flags_set]
  | case5 i table argument hargument row hrow hplain ih =>
    rw [ih, hat hargument, scan_switch (ofArgument?_of_find? hrow) (eq_false_of_ne_true hplain),
      flags_set]

theorem parse_eq_scan (table : Table) (args : List String) :
    ((table.parse args).1.flags, (table.parse args).2) = scan table.flags args :=
  parseFrom_eq_scan args 0 table

/-- In a table that comes of a new one, an option that takes no value has the value `true` if
any. -/
theorem Reached.value_of_switch {table : Table} (h : table.Reached) {option : Flag}
    (hplain : option.takesValue = false) {value : String}
    (hvalue : table.flags.value? option = some value) : value = "true" := by
  induction h generalizing value with
  | new hunset =>
    have hrow := hunset _ (value?_flags_iff _ |>.mp hvalue)
    cases hrow
  | parse h args ih =>
    rename_i table
    have hread := congrArg (·.1.value? option) (table.parse_eq_scan args)
    rw [hvalue, value?_scan] at hread
    cases hgiven : (scan {} args).1.value? option with
    | none =>
      rw [hgiven, Option.none_or] at hread
      exact ih hread.symm
    | some given =>
      rw [hgiven, Option.some_or, Option.some.injEq] at hread
      obtain ⟨i, -, -, -, htrue⟩ := given_at_visited hgiven
      exact hread.trans (htrue hplain)
  | clone h hcopy ih =>
    rw [perm_iff_flags_eq.mp hcopy] at hvalue
    exact ih hvalue

/-- **What is read stands at the visited positions.**  Of a table that comes of a new one by
readings and copyings, in whatever order it is: the outcome of reading more arguments and what is
set by them are those of `scan`, and the order has no part in them.  The reading fails exactly if an
option that takes a value is read at the last position, and the failure names it; what is set before
stays set.  An option that takes no value is set exactly if it was, or if it stands at a visited
position, and its value is `true`.  The command line is the argument behind the last option read
that has one behind it, and if there is none, the one there was.  An argument that is no option may
be left out where an option could stand, and a value be any other if a later option has a value. -/
theorem parse_reads_visited {table : Table} (h : table.Reached) (args : List String) :
    let read := fun (table : Table) (args : List String) =>
      ((table.parse args).1.flags, (table.parse args).2)
    let before := table.flags
    let after := (read table args).1
    let outcome := (read table args).2
    read table args = scan before args ∧
    (∀ other : Table, other.rows.Perm table.rows → read other args = read table args ∧
      (other.parse args).1.rows.Perm (table.parse args).1.rows) ∧
    (outcome = .ok () ↔ ∀ i, TakesAt args i → i + 1 ≠ args.length) ∧
    (∀ i argument, TakesAt args i → i + 1 = args.length → args[i]? = some argument →
      outcome = .error (.flag s!"Flag {argument} requires a value")) ∧
    (∀ option : Flag, option ≠ .command →
      (after.isSet option = true ↔ before.isSet option = true ∨
        ∃ i, Visited args i ∧ (args[i]? = some option.short ∨ args[i]? = some option.long)) ∧
      ∀ value, after.value? option = some value → value = "true") ∧
    (∀ i line, TakesAt args i → args[i + 1]? = some line →
      (∀ j, i < j → TakesAt args j → args[j + 1]? = none) → after.command = some line) ∧
    ((∀ i, TakesAt args i → args[i + 1]? = none) → after.command = before.command) ∧
    (∀ front argument rest, args = front ++ argument :: rest → Visited args front.length →
      (∀ option : Flag, argument ≠ option.short ∧ argument ≠ option.long) →
      read table (front ++ rest) = read table args) ∧
    (∀ front value rest, args = front ++ value :: rest → ¬Visited args front.length →
      (∃ j line, front.length < j ∧ TakesAt args j ∧ args[j + 1]? = some line) →
      ∀ other, read table (front ++ other :: rest) = read table args) := by
  intro read before after outcome
  have hread : ∀ (table : Table) (args : List String), read table args = scan table.flags args :=
    parse_eq_scan
  have hafter : after = (scan before args).1 := congrArg (·.1) (hread table args)
  have houtcome : outcome = (scan before args).2 := congrArg (·.2) (hread table args)
  refine ⟨hread table args, fun other hother => ?_, ?_, fun i argument htakes hlast hat => ?_,
    fun option hoption => ⟨?_, fun value => ?_⟩, fun i line htakes hline hlast => ?_,
    fun hnone => ?_, fun front argument rest hargs hvisited hother => ?_,
    fun front value rest hargs hvalue hlater other => ?_⟩
  · have hsame : read other args = read table args := by
      rw [hread, hread, perm_iff_flags_eq.mp hother]
    exact ⟨hsame, perm_iff_flags_eq.mpr (congrArg (·.1) hsame)⟩
  · rw [houtcome]
    exact scan_ok_iff
  · rw [houtcome]
    exact scan_missing_value htakes hat hlast
  · rw [hafter]
    exact isSet_scan_iff (Flag.takesValue_eq_false hoption)
  · exact (h.parse args).value_of_switch (Flag.takesValue_eq_false hoption)
  · rw [hafter]
    exact command_scan_of_last htakes hline hlast
  · rw [hafter]
    exact command_scan_of_none hnone
  · subst hargs
    rw [hread, hread, scan_without_other hvisited hother]
  · subst hargs
    obtain ⟨j, line, hj, htakes, hline⟩ := hlater
    rw [hread, hread, scan_value_replaced hvalue hj htakes hline]

/-- A new table that is gone through from its last option to its first. -/
def backward : Table where
  rows := Flag.all.reverse.map (·, none)
  each_once := by decide

/-- The last option lacks its value, and the one before has a value that looks like an option. -/
theorem parse_reads_visited_dangling :
    let table := (backward.parse ["-q", "-c"]).1
    let read := table.parse ["-c", "-h", "-h", "--command"]
    read.2 = .error (.flag "Flag --command requires a value") ∧
      read.1.flags.command = some "-h" ∧ read.1.flags.help = some "true" := by
  intro table read
  have hreached : table.Reached := .parse (.new (by decide)) _
  obtain ⟨-, -, -, hmissing, hswitch, hline, -⟩ :=
    parse_reads_visited hreached ["-c", "-h", "-h", "--command"]
  obtain ⟨hset, hvalue⟩ := hswitch .help (by decide)
  have hhelp : read.1.flags.isSet .help = true := hset.mpr (Or.inr ⟨2, by decide, by decide⟩)
  obtain ⟨value, hfound⟩ := Option.isSome_iff_exists.mp hhelp
  refine ⟨hmissing 3 "--command" (by decide) rfl rfl, hline 0 "-h" (by decide) rfl ?_, ?_⟩
  · intro j hj htakes
    match j, hj with
    | 1, _ => exact absurd htakes (by decide)
    | 2, _ => exact absurd htakes (by decide)
    | j + 3, _ => rfl
  · exact hfound.trans (congrArg some (hvalue value hfound))

end Table

end Flags

end JobShell
