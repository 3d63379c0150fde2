import JobShell.Builtin

/-!
The built-in `exit`.

Its argument is a 32-bit number: an optional sign and decimal digits.
-/

namespace JobShell

namespace Exit

/-- The value of decimal digits; a text with any other character, or with none, has no value. -/
def digitsValue? (digits : List Char) : Option Nat :=
  if digits.isEmpty || digits.any (!·.isDigit) then none
  else some (digits.foldl (fun n c => 10 * n + (c.toNat - '0'.toNat)) 0)

/-- The value of a number with an optional sign. -/
def signedValue? : List Char → Option Int
  | '-' :: digits => (digitsValue? digits).map fun n => -(n : Int)
  | '+' :: digits => (digitsValue? digits).map fun n => (n : Int)
  | digits => (digitsValue? digits).map fun n => (n : Int)

/-- The value of a text that spells a 32-bit number. -/
def code? (text : String) : Option Int :=
  (signedValue? text.toList).filter fun v => -2147483648 ≤ v && v ≤ 2147483647

/-- Without an argument the exit code stays as it is; an argument that is no code is reported and
the shell goes on. -/
def builtin {σ : Type} : Builtin σ := fun _ cmd _ =>
  match cmd.args.head? with
  | none => pure { code := 0, requests := [.exit] }
  | some argument =>
    match code? argument with
    | some code => pure { code, requests := [.exitWith code] }
    | none => do
      Act.write (.message s!"exit: {argument}: numeric argument required")
      pure { code := 2 }

end Exit

end JobShell
