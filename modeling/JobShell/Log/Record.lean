/-!
Log records and their lines.
-/

namespace JobShell.Log

/-- How much a record matters. -/
inductive Level
  | error | warn | info | debug | trace
  deriving DecidableEq, Repr

namespace Level

/-- Levels in order; a filter shows the levels up to its threshold. -/
def rank : Level → Nat
  | error => 1
  | warn => 2
  | info => 3
  | debug => 4
  | trace => 5

/-- The name, right-aligned to five characters. -/
def label : Level → String
  | error => "ERROR"
  | warn => " WARN"
  | info => " INFO"
  | debug => "DEBUG"
  | trace => "TRACE"

end Level

/-- The part of the program that writes a record. -/
inductive Source
  | readLoop | dispatcher | launcher | jobs | changeDirectory | signals
  deriving DecidableEq, Repr

/-- The name by which filters refer to a part of the program. -/
def Source.target : Source → String
  | readLoop => "mish::shell"
  | dispatcher => "mish::shell::executor"
  | launcher => "mish::process::executor"
  | jobs => "mish::process::jobs"
  | changeDirectory => "mish::core::commands::cd"
  | signals => "mish::process::signal"

structure Record where
  level : Level
  source : Source
  message : String
  deriving DecidableEq, Repr

/-- Control characters that could steer a terminal are written as escapes. -/
def harmless (c : Char) : List Char :=
  match c with
  | '\x1b' => ['\\', 'x', '1', 'b']
  | '\x07' => ['\\', 'x', '0', '7']
  | '\x08' => ['\\', 'x', '0', '8']
  | '\x0c' => ['\\', 'x', '0', 'c']
  | '\x7f' => ['\\', 'x', '7', 'f']
  | c =>
    if 0x80 ≤ c.toNat ∧ c.toNat ≤ 0x9f then
      '\\' :: 'u' :: '\x7b' :: Nat.toDigits 16 c.toNat ++ ['\x7d']
    else [c]

/-- The time, the level and the message. -/
def Record.line (record : Record) (time : String) : String :=
  let message := String.ofList (record.message.toList.flatMap harmless)
  s!"{time} {record.level.label} {message}\n"

end JobShell.Log
