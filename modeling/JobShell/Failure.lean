import JobShell.Errno
import JobShell.Text.Quoted

/-!
What can go wrong, and the wording of each failure.
-/

namespace JobShell

/-- A failed operation on files or streams. -/
inductive IoError
  | system (errno : Errno)
  /-- A failure that the system did not report, with its own wording. -/
  | other (text : String)
  deriving DecidableEq, Repr, Inhabited

namespace IoError

def message : IoError → String
  | system e => e.message
  | other text => text

def invalidText : IoError := other "stream did not contain valid UTF-8"
def writeRefused : IoError := other "failed to write whole buffer"
def nullInName : IoError := other "file name contained an unexpected NUL byte"

end IoError

/-- A failed operation on processes. -/
inductive ProcessError
  | fork (errno : Errno)
  | wait (errno : Errno)
  | invalidArgument (argument : String)
  | signalError (text : String)
  deriving DecidableEq, Repr, Inhabited

namespace ProcessError

def message : ProcessError → String
  | fork e => s!"failed to create process: {e.label}"
  | wait e => s!"failed to wait for process: {e.label}"
  | invalidArgument a => s!"argument contains a NUL byte: {Text.quoted a}"
  | signalError t => s!"Signal error: {t}"

end ProcessError

/-- Why the line editor gave no line. -/
inductive EditorError
  | endOfInput
  | interrupted
  /-- A backspace fell inside a character, and nothing is left of the line. -/
  | brokenText
  | io (error : IoError)
  deriving DecidableEq, Repr, Inhabited

def EditorError.message : EditorError → String
  | endOfInput => "EOF"
  | interrupted => "Interrupted"
  | brokenText => "a backspace splits a character"
  | io e => e.message

/-- Any failure that the shell reports. -/
inductive ShellError
  | readline (error : EditorError)
  | io (error : IoError)
  | process (error : ProcessError)
  | flag (text : String)
  deriving DecidableEq, Repr, Inhabited

namespace ShellError

def message : ShellError → String
  | readline e => s!"Readline error: {e.message}"
  | io e => s!"IO error: {e.message}"
  | process e => s!"Process error: {e.message}"
  | flag t => s!"Flag error: {t}"

end ShellError

end JobShell
