import JobShell.Failure
import JobShell.Text.Align

/-!
Command-line options.

`Flags.scan` reads the arguments from left to right: an option that takes a value takes the argument
after it, whatever that is, and an argument that is no option has no effect.  When the value is
missing the options before it stay set.
-/

namespace JobShell

/-- An option of the command line. -/
inductive Flag
  | help | version | quiet | debug | command
  deriving DecidableEq, Repr

namespace Flag

def all : List Flag := [help, version, quiet, debug, command]

def name : Flag → String
  | help => "help"
  | version => "version"
  | quiet => "quiet"
  | debug => "debug"
  | command => "command"

def short : Flag → String
  | help => "-h"
  | version => "-v"
  | quiet => "-q"
  | debug => "-d"
  | command => "-c"

def long : Flag → String
  | help => "--help"
  | version => "--version"
  | quiet => "--quiet"
  | debug => "--debug"
  | command => "--command"

def description : Flag → String
  | help => "Print this help message"
  | version => "Show version information"
  | quiet => "Suppress job notices and warnings"
  | debug => "Enable debug logging"
  | command => "Run one command line and exit with its status"

/-- The argument after this option belongs to it. -/
def takesValue : Flag → Bool
  | command => true
  | _ => false

/-- The option that an argument spells in its short or long form. -/
def ofArgument? (argument : String) : Option Flag :=
  all.find? fun f => argument == f.short || argument == f.long

def ofName? (name : String) : Option Flag := all.find? (·.name == name)

end Flag

/-- The value of each option that is set. -/
structure Flags where
  help : Option String := none
  version : Option String := none
  quiet : Option String := none
  debug : Option String := none
  command : Option String := none
  deriving DecidableEq, Repr, Inhabited

namespace Flags

def value? (flags : Flags) : Flag → Option String
  | .help => flags.help
  | .version => flags.version
  | .quiet => flags.quiet
  | .debug => flags.debug
  | .command => flags.command

def set (flags : Flags) (flag : Flag) (value : String) : Flags :=
  match flag with
  | .help => { flags with help := some value }
  | .version => { flags with version := some value }
  | .quiet => { flags with quiet := some value }
  | .debug => { flags with debug := some value }
  | .command => { flags with command := some value }

def isSet (flags : Flags) (flag : Flag) : Bool := (flags.value? flag).isSome

/-- An option stands last although it takes a value. -/
def missingValue (argument : String) : ShellError :=
  .flag s!"Flag {argument} requires a value"

/-- The options after reading the arguments, and the failure that ended the reading, if any. -/
def scan (flags : Flags) : List String → Flags × Except ShellError Unit
  | [] => (flags, .ok ())
  | argument :: rest =>
    match Flag.ofArgument? argument with
    | none => scan flags rest
    | some flag =>
      if flag.takesValue then
        match rest with
        | [] => (flags, .error (missingValue argument))
        | value :: rest => scan (flags.set flag value) rest
      else scan (flags.set flag "true") rest

def usageLine (flag : Flag) : String :=
  s!"  {flag.short}, {Text.leftAligned 15 flag.long} {flag.description}\n"

/-- The help text: one line for each option, ordered by long form. -/
def usage : String :=
  let ordered := Flag.all.mergeSort fun a b => decide (a.long ≤ b.long)
  "Usage: mish [OPTIONS]\n\nOptions:\n" ++ String.join (ordered.map usageLine)

end Flags

end JobShell
