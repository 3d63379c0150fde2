import JobShell.Environment

/-!
Colours for the shell's own messages.

Messages are coloured only on a terminal that shows colours (`Paint.forTerminal`); otherwise they
are written as they are.
-/

namespace JobShell

/-- The part that a message plays. -/
inductive Tone
  | error | success | warning
  deriving DecidableEq, Repr

/-- Whether messages are coloured. -/
structure Paint where
  coloured : Bool
  deriving DecidableEq, Repr, Inhabited

namespace Paint

def plain : Paint := ⟨false⟩

/-- A terminal type with one of these in its name shows colours. -/
def colourTerminals : List String :=
  ["xterm-truecolor", "konsole", "tmux", "screen-truecolor", "alacritty", "kitty", "terminator",
   "terminology", "eterm", "rxvt-unicode", "xterm-ghostty", "vte", "termious", "256", "color",
   "ansi", "xterm", "screen"]

/-- Programs whose terminal shows colours. -/
def colourPrograms : List String := ["iTerm.app", "Apple_Terminal", "Hyper"]

/-- One text occurs within another. -/
def occurs (needle : List Char) : List Char → Bool
  | [] => needle.isEmpty
  | c :: cs => needle.isPrefixOf (c :: cs) || occurs needle cs

def contains (text needle : String) : Bool := occurs needle.toList text.toList

/-- A text in lower case.  Of the characters beyond ASCII two have a lower case with an ASCII letter
in it, the Kelvin sign and the dotted capital I; the others are left, since no name has them. -/
def lowered (text : String) : List Char :=
  text.toList.flatMap fun c =>
    if c == '\u212a' then ['k'] else if c == '\u0130' then ['i', '\u0307'] else [c.toLower]

/-- Colours are refused by a variable of their own, and otherwise granted by any one hint. -/
def supported (env : Environment) : Bool :=
  let refused := (env.text? "NO_COLOR").isSome || env.text? "CLICOLOR" == some "0"
  let byDepth := (env.text? "COLORTERM").any fun v => contains v "truecolor" || contains v "24bit"
  let byType := (env.text? "TERM").any fun v =>
    colourTerminals.any fun name => occurs name.toList (lowered v)
  let byProgram := (env.text? "TERM_PROGRAM").any colourPrograms.contains
  let byForce := env.text? "CLICOLOR_FORCE" == some "1"
  !refused && (byDepth || byType || byProgram || byForce)

def forTerminal (isTerminal : Bool) (env : Environment) : Paint :=
  ⟨isTerminal && supported env⟩

/-- The control sequences that begin a tone. -/
def opening : Tone → String
  | .error => "\x1b[31m\x1b[1m"
  | .success => "\x1b[32m"
  | .warning => "\x1b[33m"

/-- The control sequence that ends every tone. -/
def closing : String := "\x1b[0m"

def apply (paint : Paint) (tone : Tone) (text : String) : String :=
  if paint.coloured then opening tone ++ text ++ closing else text

end Paint

end JobShell
