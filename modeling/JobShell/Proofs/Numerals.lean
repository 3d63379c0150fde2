import JobShell.Builtin.ChangeDirectory
import JobShell.Proofs.Simulation
import Mathlib.Data.List.Induction
import Mathlib.Data.Nat.Digits.Defs
import Mathlib.Tactic.Ring

/-!
# The argument of `exit`

A text spells a number if it is the digits of the number behind one sign or none (`Exit.Spells`),
and it is a code exactly if 32 bits hold the number (`Exit.code?_eq_some_iff`).  The code is read
off the whole number; to read digit by digit, and to give up where 32 bits are too few, comes to the
same (`Exit.code?_eq_read?`): reading on only moves a number away from zero, and zeros in front do
not move it.

With this it is known of every argument whether `exit` takes it, and that the state is left alone if
it does not (`Exit.exit_takes_numbers`).
-/

namespace JobShell

namespace Exit

/-! ## Digits -/

/-- The characters of decimal digits. -/
def numeral (ds : List Nat) : List Char := ds.map Nat.digitChar

/-- The number with these decimal digits, the last of which counts least. -/
def number (ds : List Nat) : Nat := Nat.ofDigits 10 ds.reverse

/-- A character that is a digit is that of its value. -/
theorem digitChar_toNat_sub {c : Char} (hc : c.isDigit = true) :
    c.toNat - '0'.toNat < 10 ∧ Nat.digitChar (c.toNat - '0'.toNat) = c := by
  have hzero : '0'.toNat = 48 := by decide
  simp only [Char.isDigit, Bool.and_eq_true, decide_eq_true_eq, UInt32.le_iff_toNat_le] at hc
  obtain ⟨hge, hle⟩ : 48 ≤ c.toNat ∧ c.toNat ≤ 57 := hc
  have hlt : c.toNat - '0'.toNat < 10 := by omega
  refine ⟨hlt, Char.toNat_inj.mp ?_⟩
  rw [Nat.toNat_digitChar_of_lt_ten hlt, hzero, Nat.add_sub_cancel' hge]

theorem number_append_singleton (ds : List Nat) (d : Nat) :
    number (ds ++ [d]) = 10 * number ds + d := by
  unfold number
  rw [List.reverse_append, List.reverse_singleton, List.singleton_append, Nat.ofDigits_cons,
    Nat.add_comm]

/-- What reading from the first digit on comes to. -/
theorem ofDigitChars_numeral {ds : List Nat} (h : ∀ d ∈ ds, d < 10) :
    Nat.ofDigitChars 10 (numeral ds) 0 = number ds := by
  induction ds using List.reverseRecOn with
  | nil => rfl
  | append_singleton ds d ih =>
    obtain ⟨hds, hd⟩ := List.forall_mem_append.mp h
    rw [number_append_singleton, ← ih hds, numeral, List.map_append, List.map_singleton,
      Nat.ofDigitChars_append,
      Nat.ofDigitChars_cons_digitChar_of_lt_ten (hd d (List.mem_singleton_self d)),
      Nat.ofDigitChars_nil]
    rfl

/-- The digits have a value if there is one at least and all are digits. -/
theorem digitsValue?_eq (cs : List Char) : digitsValue? cs =
    if !cs.isEmpty && cs.all (·.isDigit) then some (Nat.ofDigitChars 10 cs 0) else none := by
  have hall : cs.all (·.isDigit) = !cs.any (!·.isDigit) := by
    rw [List.not_any_eq_all_not]
    simp only [Bool.not_not]
  unfold digitsValue?
  rw [hall, ← Bool.not_or, Nat.ofDigitChars_eq_foldl]
  cases cs.isEmpty || cs.any (!·.isDigit) <;> rfl

theorem digitsValue?_eq_some_iff {cs : List Char} {n : Nat} : digitsValue? cs = some n ↔
    ∃ ds, ds ≠ [] ∧ (∀ d ∈ ds, d < 10) ∧ cs = numeral ds ∧ n = number ds := by
  rw [digitsValue?_eq, Option.ite_none_right_eq_some, Option.some.injEq, Bool.and_eq_true,
    Bool.not_eq_true', List.isEmpty_eq_false_iff, List.all_eq_true]
  constructor
  · rintro ⟨⟨hne, hall⟩, rfl⟩
    have hds : ∀ d ∈ cs.map fun c => c.toNat - '0'.toNat, d < 10 := by
      intro d hd
      obtain ⟨c, hc, rfl⟩ := List.mem_map.mp hd
      exact (digitChar_toNat_sub (hall c hc)).1
    have hcs : numeral (cs.map fun c => c.toNat - '0'.toNat) = cs := by
      unfold numeral
      rw [List.map_map]
      exact (List.map_congr_left fun c hc => (digitChar_toNat_sub (hall c hc)).2).trans
        (List.map_id cs)
    refine ⟨_, fun hnil => hne (List.map_eq_nil_iff.mp hnil), hds, hcs.symm, ?_⟩
    rw [← ofDigitChars_numeral hds, hcs]
  · rintro ⟨ds, hne, hds, rfl, rfl⟩
    refine ⟨⟨fun hnil => hne (List.map_eq_nil_iff.mp hnil), fun c hc => ?_⟩,
      ofDigitChars_numeral hds⟩
    obtain ⟨d, hd, rfl⟩ := List.mem_map.mp hc
    rw [Nat.isDigit_digitChar]
    exact decide_eq_true (hds d hd)

/-! ## Signs -/

/-- The text is the digits of the number, one or more of them, behind one sign or none. -/
inductive Spells : List Char → Int → Prop
  | bare {ds : List Nat} (hne : ds ≠ []) (hds : ∀ d ∈ ds, d < 10) :
      Spells (numeral ds) (number ds)
  | plus {ds : List Nat} (hne : ds ≠ []) (hds : ∀ d ∈ ds, d < 10) :
      Spells ('+' :: numeral ds) (number ds)
  | minus {ds : List Nat} (hne : ds ≠ []) (hds : ∀ d ∈ ds, d < 10) :
      Spells ('-' :: numeral ds) (-(number ds : Int))

/-- Digits read without a sign begin with none. -/
theorem head?_numeral {ds : List Nat} (hds : ∀ d ∈ ds, d < 10) :
    (numeral ds).head? ≠ some '-' ∧ (numeral ds).head? ≠ some '+' := by
  have hall : ∀ d < 10, Nat.digitChar d ≠ '-' ∧ Nat.digitChar d ≠ '+' := by decide
  cases ds with
  | nil => exact ⟨nofun, nofun⟩
  | cons d rest =>
    obtain ⟨hminus, hplus⟩ := hall d (hds d List.mem_cons_self)
    exact ⟨fun h => hminus (Option.some.inj h), fun h => hplus (Option.some.inj h)⟩

/-- What is made of the digits of a text and of the side of zero on which they are. -/
def behindSign {α : Type} (make : Int → List Char → α) : List Char → α
  | '-' :: digits => make (-1) digits
  | '+' :: digits => make 1 digits
  | digits => make 1 digits

theorem behindSign_bare {α : Type} (make : Int → List Char → α) {cs : List Char}
    (hminus : cs.head? ≠ some '-') (hplus : cs.head? ≠ some '+') :
    behindSign make cs = make 1 cs := by
  unfold behindSign
  split
  · exact absurd rfl hminus
  · exact absurd rfl hplus
  · rfl

/-- A text has one sign or none. -/
theorem sign_cases (cs : List Char) : (∃ digits, cs = '-' :: digits) ∨
    (∃ digits, cs = '+' :: digits) ∨ cs.head? ≠ some '-' ∧ cs.head? ≠ some '+' := by
  cases cs with
  | nil => exact Or.inr (Or.inr ⟨nofun, nofun⟩)
  | cons c rest =>
    by_cases hminus : c = '-'
    · exact Or.inl ⟨rest, hminus ▸ rfl⟩
    · by_cases hplus : c = '+'
      · exact Or.inr (Or.inl ⟨rest, hplus ▸ rfl⟩)
      · exact Or.inr (Or.inr
          ⟨fun h => hminus (Option.some.inj h), fun h => hplus (Option.some.inj h)⟩)

theorem signedValue?_eq (cs : List Char) : signedValue? cs = behindSign (fun sign digits =>
    (digitsValue? digits).map fun n : Nat => sign * (n : Int)) cs := by
  have hcast : ∀ {f : Int → Int} {sign : Int}, (∀ v, f v = sign * v) → ∀ digits,
      (do let n ← digitsValue? digits; pure (n : Int)).map f =
        (digitsValue? digits).map fun n : Nat => sign * (n : Int) := by
    intro f sign hf digits
    cases digitsValue? digits with
    | none => rfl
    | some n => exact congrArg some (hf n)
  have hone : ∀ v : Int, v = 1 * v := fun v => (Int.one_mul v).symm
  rcases sign_cases cs with ⟨digits, rfl⟩ | ⟨digits, rfl⟩ | ⟨hminus, hplus⟩
  · exact hcast (fun v => (Int.neg_one_mul v).symm) digits
  · exact hcast hone digits
  · rw [behindSign_bare _ hminus hplus, ← hcast hone]
    unfold signedValue?
    split
    · exact absurd rfl hminus
    · exact absurd rfl hplus
    · rfl

/-- A number has a value exactly if a text spells it. -/
theorem signedValue?_eq_some_iff {cs : List Char} {v : Int} :
    signedValue? cs = some v ↔ Spells cs v := by
  have hmade : ∀ {sign : Int} {digits : List Char},
      (digitsValue? digits).map (fun n : Nat => sign * (n : Int)) = some v ↔
        ∃ ds, ds ≠ [] ∧ (∀ d ∈ ds, d < 10) ∧ digits = numeral ds ∧
          sign * (number ds : Int) = v := by
    intro sign digits
    simp only [Option.map_eq_some_iff, digitsValue?_eq_some_iff]
    constructor
    · rintro ⟨n, ⟨ds, hne, hds, hdigits, rfl⟩, hv⟩
      exact ⟨ds, hne, hds, hdigits, hv⟩
    · rintro ⟨ds, hne, hds, hdigits, hv⟩
      exact ⟨_, ⟨ds, hne, hds, hdigits, rfl⟩, hv⟩
  rw [signedValue?_eq]
  constructor
  · intro h
    rcases sign_cases cs with ⟨digits, rfl⟩ | ⟨digits, rfl⟩ | ⟨hminus, hplus⟩
    · obtain ⟨ds, hne, hds, rfl, rfl⟩ := hmade.mp h
      rw [Int.neg_one_mul]
      exact .minus hne hds
    · obtain ⟨ds, hne, hds, rfl, rfl⟩ := hmade.mp h
      rw [Int.one_mul]
      exact .plus hne hds
    · rw [behindSign_bare _ hminus hplus] at h
      obtain ⟨ds, hne, hds, rfl, rfl⟩ := hmade.mp h
      rw [Int.one_mul]
      exact .bare hne hds
  · rintro (⟨hne, hds⟩ | ⟨hne, hds⟩ | ⟨hne, hds⟩)
    · rw [behindSign_bare _ (head?_numeral hds).1 (head?_numeral hds).2]
      exact hmade.mpr ⟨_, hne, hds, rfl, Int.one_mul _⟩
    · exact hmade.mpr ⟨_, hne, hds, rfl, Int.one_mul _⟩
    · exact hmade.mpr ⟨_, hne, hds, rfl, Int.neg_one_mul _⟩

/-! ## Thirty-two bits -/

/-- 32 bits hold the number. -/
def fits (v : Int) : Bool := -2147483648 ≤ v && v ≤ 2147483647

/-- A text is a code exactly if it spells a number that 32 bits hold. -/
theorem code?_eq_some_iff {text : String} {v : Int} :
    code? text = some v ↔ Spells text.toList v ∧ -2 ^ 31 ≤ v ∧ v ≤ 2 ^ 31 - 1 := by
  have hfits : (-2147483648 ≤ v && v ≤ 2147483647) = true ↔ -2 ^ 31 ≤ v ∧ v ≤ 2 ^ 31 - 1 := by
    simp only [Bool.and_eq_true, decide_eq_true_eq]
    omega
  unfold code?
  rw [Option.filter_eq_some_iff, signedValue?_eq_some_iff, hfits]

/-- Reads digits behind a number, away from zero on the side of the sign, and gives up where 32 bits
are too few for what has been read. -/
def readWithin (sign : Int) : Int → List Char → Option Int
  | v, [] => some v
  | v, c :: rest =>
    let next := 10 * v + sign * ((c.toNat - '0'.toNat : Nat) : Int)
    if c.isDigit && fits (10 * v) && fits next then readWithin sign next rest else none

/-- Reading on only moves a number away from zero. -/
theorem le_ofDigitChars (digits : List Char) (n : Nat) : n ≤ Nat.ofDigitChars 10 digits n := by
  induction digits generalizing n with
  | nil => exact Nat.le_of_eq Nat.ofDigitChars_nil.symm
  | cons c rest ih =>
    rw [Nat.ofDigitChars_cons]
    exact Nat.le_trans (by omega) (ih _)

section

variable {sign : Int} (hsign : sign = 1 ∨ sign = -1)

include hsign

/-- If 32 bits hold a number they hold those nearer to zero on its side. -/
theorem fits_of_le {n m : Nat} (hle : n ≤ m) (h : fits (sign * m) = true) :
    fits (sign * n) = true := by
  simp only [fits, Bool.and_eq_true, decide_eq_true_eq] at h ⊢
  rcases hsign with rfl | rfl <;> omega

/-- Where 32 bits hold the whole number they hold it all the way, and where they do not they give
out on the way. -/
theorem readWithin_eq (digits : List Char) {n : Nat} (hn : fits (sign * n) = true) :
    readWithin sign (sign * n) digits =
      if digits.all (·.isDigit) && fits (sign * (Nat.ofDigitChars 10 digits n : Nat)) then
        some (sign * (Nat.ofDigitChars 10 digits n : Nat))
      else none := by
  induction digits generalizing n with
  | nil =>
    rw [readWithin, Nat.ofDigitChars_nil, hn]
    rfl
  | cons c rest ih =>
    have htens : 10 * (sign * (n : Int)) = sign * ((10 * n : Nat) : Int) := by
      push_cast
      ring
    have hnext : sign * ((10 * n : Nat) : Int) + sign * ((c.toNat - '0'.toNat : Nat) : Int) =
        sign * ((10 * n + (c.toNat - '0'.toNat) : Nat) : Int) := by
      push_cast
      ring
    rw [readWithin, htens, hnext, List.all_cons, Nat.ofDigitChars_cons]
    generalize c.toNat - '0'.toNat = d
    cases hfits : fits (sign * ((10 * n + d : Nat) : Int)) with
    | true =>
      rw [fits_of_le hsign (Nat.le_add_right _ _) hfits, ih hfits]
      cases c.isDigit <;> rfl
    | false =>
      have hend : fits (sign * (Nat.ofDigitChars 10 rest (10 * n + d) : Nat)) = false := by
        by_contra hend
        rw [Bool.not_eq_false] at hend
        rw [fits_of_le hsign (le_ofDigitChars _ _) hend] at hfits
        cases hfits
      rw [hend, Bool.and_false, Bool.and_false]
      rfl

/-- Read from the first digit on, digits come to their number if 32 bits hold it. -/
theorem readWithin_zero (digits : List Char) :
    (if digits.isEmpty then none else readWithin sign 0 digits) =
      ((digitsValue? digits).map fun n : Nat => sign * (n : Int)).filter fits := by
  have hread := readWithin_eq hsign digits (n := 0) (by simp [fits])
  rw [Nat.cast_zero, Int.mul_zero] at hread
  rw [hread, digitsValue?_eq]
  cases digits.isEmpty with
  | true => rfl
  | false =>
    cases digits.all (·.isDigit) with
    | false => rfl
    | true =>
      cases hfits : fits (sign * (Nat.ofDigitChars 10 digits 0 : Nat)) <;>
        simp [Option.filter, hfits]

end

/-- The code of a text, read digit by digit. -/
def read? (text : String) : Option Int :=
  behindSign (fun sign digits => if digits.isEmpty then none else readWithin sign 0 digits)
    text.toList

/-- To read digit by digit, and to give up where 32 bits are too few, gives the code. -/
theorem code?_eq_read? (text : String) : code? text = read? text := by
  show (signedValue? text.toList).filter fits = _
  rw [signedValue?_eq]
  unfold read?
  rcases sign_cases text.toList with ⟨digits, hsign⟩ | ⟨digits, hsign⟩ | ⟨hminus, hplus⟩
  · rw [hsign]
    exact (readWithin_zero (Or.inr rfl) digits).symm
  · rw [hsign]
    exact (readWithin_zero (Or.inl rfl) digits).symm
  · rw [behindSign_bare _ hminus hplus, behindSign_bare _ hminus hplus]
    exact (readWithin_zero (Or.inl rfl) text.toList).symm

/-! ## The built-in -/

/-- What the built-in comes to, by its first argument. -/
theorem builtin_cases {σ : Type} (calls : Nat) (cmd : Command) (state : ShellState) (host : σ) :
    (cmd.args.head? = none ∧
      builtin calls cmd state host = ⟨{ code := 0, requests := [.exit] }, [], host⟩) ∨
    ∃ argument, cmd.args.head? = some argument ∧
      ((∃ code, code? argument = some code ∧
        builtin calls cmd state host = ⟨{ code, requests := [.exitWith code] }, [], host⟩) ∨
      (code? argument = none ∧ builtin calls cmd state host =
        ⟨{ code := 2 }, [.message s!"exit: {argument}: numeric argument required"], host⟩)) := by
  unfold builtin
  cases hhead : cmd.args.head? with
  | none => exact Or.inl ⟨rfl, rfl⟩
  | some argument =>
    refine Or.inr ⟨argument, rfl, ?_⟩
    simp only
    cases code? argument with
    | some code => exact Or.inl ⟨code, rfl, rfl⟩
    | none => exact Or.inr ⟨rfl, rfl⟩

/-- The built-in looks at nothing of its command but the first argument. -/
theorem builtin_congr {σ : Type} {cmd other : Command} (h : other.args.head? = cmd.args.head?)
    (calls : Nat) (state : ShellState) :
    (builtin calls other state : Act σ Reply) = builtin calls cmd state := by
  unfold builtin
  rw [h]

/-- **`exit` takes the numbers that 32 bits hold, and nothing else.**  Without an argument it
answers 0 and requests an exit, and the exit code stays as it was.  With one that spells such a
number it answers the number and requests an exit with it; with any other it answers 2 and the state
is left as it was.  It looks at nothing but its first argument, and never touches the last
status. -/
theorem exit_takes_numbers {σ : Type} [Host σ] (builtins : Builtins σ) (calls : Nat)
    (cmd : Command) (state : ShellState) (host : σ) :
    (Builtins.defaults : Builtins σ).get? "exit" = some { handler := builtin } ∧
    let called := builtins.call { handler := builtin, calls } cmd state host
    let code := called.value.1
    let after := called.value.2.1
    (cmd.args = [] → code = 0 ∧ after = { state with shouldExit := true }) ∧
    (∀ argument more, cmd.args = argument :: more →
      (∀ v : Int, Spells argument.toList v → -2 ^ 31 ≤ v → v ≤ 2 ^ 31 - 1 →
        code = v ∧ after = { state with shouldExit := true, exitCode := v }) ∧
      ((∀ v : Int, Spells argument.toList v → v < -2 ^ 31 ∨ 2 ^ 31 - 1 < v) →
        code = 2 ∧ after = state)) ∧
    (∀ other : Command, other.args.head? = cmd.args.head? →
      let again := builtins.call { handler := builtin, calls } other state host
      again.value.1 = code ∧ again.value.2.1 = after ∧ again.written = called.written) ∧
    after.lastStatus = state.lastStatus := by
  refine ⟨rfl, ?_⟩
  intro called code after
  have hcode : code = (builtin calls cmd state host).value.code := rfl
  have hafter : after = state.applyAll (builtin calls cmd state host).value.requests := rfl
  have hagain : ∀ other : Command, other.args.head? = cmd.args.head? →
      let again := builtins.call { handler := builtin, calls } other state host
      again.value.1 = code ∧ again.value.2.1 = after ∧ again.written = called.written := by
    intro other hhead again
    have hsame : builtin calls other state host = builtin calls cmd state host :=
      congrFun (builtin_congr hhead calls state) host
    exact ⟨congrArg (·.value.code) hsame,
      congrArg (fun reply : Outcome Entry σ Reply => state.applyAll reply.value.requests) hsame,
      congrArg (fun reply : Outcome Entry σ Reply => reply.written ++ []) hsame⟩
  rcases builtin_cases calls cmd state host with
    ⟨hhead, hreply⟩ | ⟨argument, hhead, ⟨given, hgiven, hreply⟩ | ⟨hnone, hreply⟩⟩
  all_goals
    rw [hreply] at hcode hafter
    refine ⟨fun hargs => ?_, fun first more hargs => ?_, hagain, by rw [hafter]; rfl⟩
    all_goals rw [hargs] at hhead
  · exact ⟨hcode, hafter⟩
  · cases hhead
  · cases hhead
  · obtain rfl : first = argument := Option.some.inj hhead
    obtain ⟨hspells, hge, hle⟩ := code?_eq_some_iff.mp hgiven
    refine ⟨fun v hv hge' hle' => ?_, fun hout => ?_⟩
    · obtain rfl : given = v :=
        Option.some.inj (hgiven.symm.trans (code?_eq_some_iff.mpr ⟨hv, hge', hle'⟩))
      exact ⟨hcode, hafter⟩
    · exact absurd (hout given hspells) (by omega)
  · cases hhead
  · obtain rfl : first = argument := Option.some.inj hhead
    refine ⟨fun v hv hge hle => ?_, fun _ => ⟨hcode, hafter⟩⟩
    rw [code?_eq_some_iff.mpr ⟨hv, hge, hle⟩] at hnone
    cases hnone

/-- The least number that 32 bits hold, with zeros in front of it and more behind it, and the number
below that. -/
theorem exit_takes_numbers_least :
    let builtins : Builtins Simulation := .defaults
    (builtins.call { handler := builtin, calls := 3 }
        ⟨"exit -002147483648 x ", "exit", ["-002147483648", "x"], true⟩ {} Simulation.single).value.1 =
      -2147483648 ∧
    (builtins.call { handler := builtin } ⟨"exit -2147483649", "exit", ["-2147483649"], false⟩
        { exitCode := 7 } Simulation.single).value.2.1 = { exitCode := 7 } := by
  intro builtins
  obtain ⟨-, -, hgiven, -⟩ := exit_takes_numbers builtins 3
    ⟨"exit -002147483648 x ", "exit", ["-002147483648", "x"], true⟩ {} Simulation.single
  obtain ⟨-, -, hgiven', -⟩ := exit_takes_numbers builtins 0
    ⟨"exit -2147483649", "exit", ["-2147483649"], false⟩ { exitCode := 7 } Simulation.single
  have hleast : Spells "-002147483648".toList (-2147483648) :=
    @Spells.minus [0, 0, 2, 1, 4, 7, 4, 8, 3, 6, 4, 8] (by decide) (by decide)
  refine ⟨((hgiven _ _ rfl).1 _ hleast (by decide) (by decide)).1,
    ((hgiven' _ _ rfl).2 fun v hv => ?_).2⟩
  have hnone : code? "-2147483649" = none := by decide
  by_contra hfits
  rw [code?_eq_some_iff.mpr ⟨hv, by omega, by omega⟩] at hnone
  cases hnone

end Exit

end JobShell
