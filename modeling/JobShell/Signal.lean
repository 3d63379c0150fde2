/-!
The signals 1 to 31, their numbers and names.

`number` is injective and `ofNumber?` is its inverse; numbers above 31 belong to real-time signals,
which have no name here.
-/

namespace JobShell

inductive Signal
  | hup | int | quit | ill | trap | abrt | bus | fpe | kill | usr1 | segv | usr2 | pipe | alrm
  | term | stkflt | chld | cont | stop | tstp | ttin | ttou | urg | xcpu | xfsz | vtalrm | prof
  | winch | io | pwr | sys
  deriving DecidableEq, Repr, Inhabited

namespace Signal

def all : List Signal :=
  [hup, int, quit, ill, trap, abrt, bus, fpe, kill, usr1, segv, usr2, pipe, alrm, term, stkflt,
   chld, cont, stop, tstp, ttin, ttou, urg, xcpu, xfsz, vtalrm, prof, winch, io, pwr, sys]

def number : Signal → Nat
  | hup => 1 | int => 2 | quit => 3 | ill => 4 | trap => 5 | abrt => 6 | bus => 7 | fpe => 8
  | kill => 9 | usr1 => 10 | segv => 11 | usr2 => 12 | pipe => 13 | alrm => 14 | term => 15
  | stkflt => 16 | chld => 17 | cont => 18 | stop => 19 | tstp => 20 | ttin => 21 | ttou => 22
  | urg => 23 | xcpu => 24 | xfsz => 25 | vtalrm => 26 | prof => 27 | winch => 28 | io => 29
  | pwr => 30 | sys => 31

def ofNumber? (n : Nat) : Option Signal := all.find? (·.number == n)

def name : Signal → String
  | hup => "SIGHUP" | int => "SIGINT" | quit => "SIGQUIT" | ill => "SIGILL" | trap => "SIGTRAP"
  | abrt => "SIGABRT" | bus => "SIGBUS" | fpe => "SIGFPE" | kill => "SIGKILL" | usr1 => "SIGUSR1"
  | segv => "SIGSEGV" | usr2 => "SIGUSR2" | pipe => "SIGPIPE" | alrm => "SIGALRM"
  | term => "SIGTERM" | stkflt => "SIGSTKFLT" | chld => "SIGCHLD" | cont => "SIGCONT"
  | stop => "SIGSTOP" | tstp => "SIGTSTP" | ttin => "SIGTTIN" | ttou => "SIGTTOU" | urg => "SIGURG"
  | xcpu => "SIGXCPU" | xfsz => "SIGXFSZ" | vtalrm => "SIGVTALRM" | prof => "SIGPROF"
  | winch => "SIGWINCH" | io => "SIGIO" | pwr => "SIGPWR" | sys => "SIGSYS"

/-- What a signal does to a process that has made no arrangement for it. -/
inductive Action
  | terminate | ignore | stop | resume
  deriving DecidableEq

/-- The action for a signal number; the real-time signals end a process. -/
def action (n : Nat) : Action :=
  match ofNumber? n with
  | some chld | some urg | some winch => .ignore
  | some cont => .resume
  | some stop | some tstp | some ttin | some ttou => .stop
  | _ => .terminate

theorem ofNumber?_number (s : Signal) : ofNumber? s.number = some s := by
  cases s <;> rfl

theorem number_inj {s t : Signal} (h : s.number = t.number) : s = t := by
  have := ofNumber?_number s
  rw [h, ofNumber?_number t] at this
  exact (Option.some.inj this).symm

end Signal

end JobShell
