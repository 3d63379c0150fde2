import JobShell.Toolbox.Floating
import JobShell.Toolbox.Options

/-!
Waiting for a time.
-/

namespace JobShell.Toolbox.Sleep

open Machine

def options : OptionSet := { long := [("help", .nothing, 'h'), ("version", .nothing, 'V')] }

/-- The seconds of a unit. -/
def unit? : Text → Option Nat
  | [] | ['s'] => some 1
  | ['m'] => some 60
  | ['h'] => some 3600
  | ['d'] => some 86400
  | _ => none

/-- Beyond this number of seconds nothing waits. -/
def longest : Nat := 1000000000000

/-- The nanoseconds in a number of seconds, minutes, hours or days, rounded up. -/
def duration? (text : Text) : Option Nat :=
  let (x, _, rest) := Floating.ofFront .extended text
  if rest.length = text.length || text.head?.any Text.isBlank then none
  else match unit? rest, x.magnitude with
    | some unit, .finite m e =>
      if x.isNegative && m != 0 then none
      else
        let (n, d) := Floating.scaled m (min e 64)
        some (min ((n * unit * 1000000000 + d - 1) / d) (longest * 1000000000))
    | some _, .infinite => if x.isNegative then none else some (longest * 1000000000)
    | _, _ => none

def complaints (call : Call) : List Text → Doing Unit
  | [] => pure ()
  | bad :: rest => do
    complain (call.message ("invalid time interval ".toList ++ Text.told bad))
    complaints call rest

def run (call : Call) : Doing Nat := do
  let line := options.read false call.arguments
  match line.fault with
  | some fault => call.misuse fault
  | none =>
    if line.operands.isEmpty then call.misuse "missing operand".toList
    else
      let bad := line.operands.filter fun a => (duration? a).isNone
      if bad.isEmpty then do
        Doing.ask (.sleep ((line.operands.filterMap duration?).foldl (· + ·) 0))
        pure 0
      else do
        complaints call bad
        complain call.hint
        pure 1

end JobShell.Toolbox.Sleep
