import JobShell.Shell.Run

/-!
The program: from its arguments to its exit status.

Arguments that cannot be read end the program with status 1; the help text goes before the version,
and both before anything is run.  Otherwise one command line is run, or the read loop, and the code
that comes of it is reduced to a byte.
-/

namespace JobShell

namespace Program

/-- What the arguments ask for. -/
inductive Start
  | refused (error : ShellError)
  /-- Only a text is to be shown. -/
  | shown (text : String)
  | ready (flags : Flags)

def versionText : String := "mish 0.0.1\n"

def start (args : List String) : Start :=
  match ({} : Flags).scan args with
  | (_, .error error) => .refused error
  | (flags, .ok ()) =>
    if flags.isSet .help then .shown Flags.usage
    else if flags.isSet .version then .shown versionText
    else .ready flags

/-- The variable that holds a log filter. -/
def logVariable : String := "MISH_LOG"

/-- The filter of the environment if it is set to one, or else warnings, with the option also
debug records. -/
def logFilter (flags : Flags) (env : Environment) : Log.Filter :=
  let usual := Log.Filter.upTo (if flags.isSet .debug then .debug else .warn)
  ((env.text? logVariable).bind Log.Filter.parse?).getD usual

/-- How the messages of the program appear. -/
def console (args : List String) (env : Environment) (onTerminal : Bool) : Console :=
  { paint := .forTerminal onTerminal env
    filter := match start args with
      | .ready flags => some (logFilter flags env)
      | _ => none }

/-- The structural form of a failure on files or streams. -/
def structuralIo : IoError → String
  | .system e =>
    s!"Os \x7b code: {e.number}, kind: Other, message: {Text.quoted e.wording} \x7d"
  | .other text => s!"Error \x7b kind: WriteZero, message: {Text.quoted text} \x7d"

/-- The name of an error number. -/
def errnoName (e : Errno) : String := (e.entry?.map (·.name)).getD "UnknownErrno"

/-- The structural form of a failure, with which the program ends. -/
def structural : ShellError → String
  | .readline .endOfInput => "Readline(Eof)"
  | .readline .interrupted => "Readline(Interrupted)"
  | .readline .brokenText => "Readline(BrokenText)"
  | .readline (.io e) => s!"Readline(Io({structuralIo e}))"
  | .io e => s!"Io({structuralIo e})"
  | .process (.fork e) => s!"ProcessError(Fork({errnoName e}))"
  | .process (.wait e) => s!"ProcessError(Wait({errnoName e}))"
  | .process (.invalidArgument a) => s!"ProcessError(InvalidArgument({Text.quoted a}))"
  | .process (.signalError t) => s!"ProcessError(SignalError({Text.quoted t}))"
  | .flag t => s!"FlagError({Text.quoted t})"

variable {ρ σ : Type}

/-- Ends the program on a failure. -/
def fail (error : ShellError) : Act σ Nat := do
  Act.write (.message s!"Error: {structural error}")
  pure 1

/-- The exit status of a code: its residue modulo 256. -/
def exitStatus (code : Int) : Nat := (code % 256).toNat

/-- The exit status of what came of running the shell. -/
def conclude (result : Except ShellError Int) : Act σ Nat :=
  match result with
  | .error error => fail error
  | .ok code => pure (exitStatus code)

variable [Host σ] [LineReader ρ]

/-- Runs the command line of the options, or else the read loop. -/
def work (flags : Flags) (shell : Shell ρ σ) : Act σ Nat :=
  match flags.command with
  | some line => do
    let result ← shell.runCommand line
    conclude (.ok result.1)
  | none => do
    let result ← shell.run
    conclude result.1

/-- Runs the program; gives its exit status. -/
def run (args : List String) (reader : ρ) : Act σ Nat :=
  match start args with
  | .refused error => fail error
  | .shown text => do
    Act.write (.echo (Bytes.ofString text))
    pure 0
  | .ready flags => do
    let installed ← (Shell.new flags reader : Shell ρ σ).installSignalHandlers
    match installed.1 with
    | .error error => fail error
    | .ok () => work flags installed.2

end Program

end JobShell
