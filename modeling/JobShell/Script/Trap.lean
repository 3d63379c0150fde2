import JobShell.Script.State
import JobShell.Signal

/-!
What the system shell does about signals.

A signal with commands set for it is caught, and kept until the shell looks for it between two
commands.  The shell that was started first catches an interrupt in any case, so that it can end
after a command that is being waited for.
-/

namespace JobShell.Script

open Machine Toolbox

namespace Trap

/-- The number under which commands for the end of the shell are set. -/
def atEnd : Nat := 0

def interrupt : Nat := Signal.number .int

/-- Signals have numbers below this. -/
def signalCount : Nat := 65

/-- The names of signals, by number. -/
def name (number : Nat) : Text :=
  if number = atEnd then "EXIT".toList
  else if number = 34 then "RTMIN".toList
  else if number = 64 then "RTMAX".toList
  else if 34 < number ∧ number < 50 then "RTMIN+".toList ++ Text.decimal (number - 34)
  else if 50 ≤ number ∧ number < 64 then "RTMAX-".toList ++ Text.decimal (64 - number)
  else match Signal.ofNumber? number with
    | some .stkflt | none => Text.decimal number
    | some s => s.name.toList.drop 3

/-- The signal that a text names or numbers, from `least` on if by name. -/
def number? (least : Nat) (text : Text) : Option Nat :=
  match Text.number? text with
  | some n => if n < signalCount then some n else none
  | none =>
    let upper := text.map Char.toUpper
    (List.range signalCount).find? fun n => least ≤ n && name n == upper

/-- What the shell wants to happen on a signal. -/
def arrangement (s : State) (signal : Nat) : Arrangement :=
  match s.traps.lookup signal with
  | some [] => .ignored
  | some _ => .caught
  | none => if signal = interrupt && !s.isChild && !s.has .interactive then .caught else .usual

end Trap

namespace Acts

/-- Arranges what the shell wants to happen on a signal; one that was ignored from the start stays
ignored. -/
def arrange (signal : Nat) : Acts Unit := do
  if !(← get).managed.contains signal then
    let isDeaf ← ask (.isIgnored signal)
    modify fun s =>
      { s with managed := signal :: s.managed, deaf := if isDeaf then signal :: s.deaf else s.deaf }
  let s : State ← get
  if !s.deaf.contains signal then ask (.arrange signal (Trap.arrangement s signal))

/-- Has a signal ignored for good. -/
def deafen (signal : Nat) : Acts Unit := do
  if !(← get).deaf.contains signal then ask (.arrange signal .ignored)
  modify fun s =>
    { s with managed := signal :: s.managed, deaf := signal :: s.deaf.filter (· != signal) }

/-- Sets commands for a signal, or none. -/
def setTrap (signal : Nat) (commands : Option Text) : Acts Unit := do
  modify fun s =>
    let others := s.traps.filter (·.1 != signal)
    { s with traps := match commands with
      | some text => (signal, text) :: others
      | none => others }
  if signal != Trap.atEnd then arrange signal

/-- A part of the shell forgets the commands for signals, but not what is ignored. -/
def forgetTraps : Acts Unit := do
  let forgotten := ((← get).traps.filter fun t => !t.2.isEmpty).map (·.1)
  modify fun s => { s with traps := s.traps.filter (·.2.isEmpty), pending := [] }
  forgotten.forM fun signal => if signal = Trap.atEnd then pure () else arrange signal

/-- Ends by a signal. -/
def dieBy (signal : Nat) : Acts Unit := do
  ask (.arrange signal .usual)
  let (own, _) ← ask .identity
  let _ ← ask (.signal own signal)

/-- Looks for signals that have come; gives those for which something is to be done.  Without
commands for it, an interrupt ends the shell. -/
def poll : Acts (List Nat) := do
  let come ← ask .takeSignals
  if come.contains Trap.interrupt && ((← get).traps.lookup Trap.interrupt).isNone then
    dieBy Trap.interrupt
  modify fun s => { s with pending := s.pending ++ come.filter (!s.pending.contains ·) }
  pure (← get).pending

/-- Some signal has commands set for it. -/
def hasTraps : Acts Bool := do pure ((← get).traps.any fun t => !t.2.isEmpty)

end Acts

end JobShell.Script
