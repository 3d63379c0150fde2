import JobShell.Environment
import JobShell.Reader.Stream
import JobShell.Text.Grapheme

/-!
The line editor.

Without a terminal it reads plain lines, in which a backspace takes away the cluster before it; a
prompt is shown only where the terminal type cannot be edited on.  On a terminal it takes keys:
Enter ends the line, Ctrl-C drops it, and Ctrl-D on an empty line closes the input.
-/

namespace JobShell

/-- Where the editor takes its lines from. -/
inductive Editor
  /-- A byte stream, and whether prompts are shown. -/
  | piped (input : Bytes) (showsPrompt : Bool)
  /-- The keys that are still to be taken. -/
  | typed (keys : List Char)
  deriving Inhabited

namespace Editor

/-- Terminal types that the editor does not edit on. -/
def plainTerminals : List String := ["dumb", "cons25", "emacs"]

def isPlainTerminal (env : Environment) : Bool :=
  (env.text? "TERM").any fun t => plainTerminals.contains t.toLower

/-- What the editor makes of the bytes of one line. -/
def edited (taken : Bytes) : Except EditorError String :=
  match taken.text? with
  | some text =>
    match Text.applyBackspaces? (withoutTerminator text.toList) with
    | some line => .ok (String.ofList line)
    | none => .error .brokenText
  | none => .error (.io .invalidText)

/-- One line from the keys, given the characters typed so far in reverse, and the keys left. -/
def typedLine (before : List Char) : List Char → Except EditorError String × List Char
  | [] => (.error .endOfInput, [])
  | key :: keys =>
    if key = '\r' ∨ key = '\n' then (.ok (String.ofList before.reverse), keys)
    else if key = '\x03' then (.error .interrupted, keys)
    else if key = '\x04' then
      if before.isEmpty then (.error .endOfInput, keys) else typedLine before keys
    else typedLine (key :: before) keys

/-- One line, what was shown, and the editor left. -/
def readLine (prompt : String) : Editor → Except EditorError String × Bytes × Editor
  | piped input showsPrompt =>
    let shown := if showsPrompt then Bytes.ofString prompt else []
    if input.isEmpty then (.error .endOfInput, shown, piped [] showsPrompt)
    else
      let (line, rest) := cutLine input
      (edited line, shown, piped rest showsPrompt)
  | typed keys =>
    let (line, rest) := typedLine [] keys
    (line, [], typed rest)

/-- An interrupted line counts as an empty one, and the end of the input closes the reader. -/
def answer : Except EditorError String → ReadAnswer
  | .ok line => .line line
  | .error .interrupted => .line ""
  | .error .endOfInput => .closed
  | .error e => .failed (.readline e)

def read (prompt : String) (editor : Editor) : Reading Editor :=
  let (line, shown, rest) := editor.readLine prompt
  ⟨answer line, shown, rest⟩

/-- The bytes or keys that are left. -/
def left : Editor → Nat
  | piped input _ => input.length
  | typed keys => keys.length

theorem length_typedLine (before keys : List Char) :
    (typedLine before keys).2.length ≤ keys.length ∧
      (keys ≠ [] → (typedLine before keys).2.length < keys.length) := by
  induction keys generalizing before with
  | nil => simp [typedLine]
  | cons key keys ih =>
    unfold typedLine
    split
    · simp
    split
    · simp
    split
    · split
      · simp
      · have := (ih before).1; simp; omega
    · have := (ih (key :: before)).1; simp; omega

theorem left_read {prompt : String} {editor : Editor} {text : String}
    (h : (editor.read prompt).answer = .line text) :
    (editor.read prompt).rest.left < editor.left := by
  cases editor with
  | piped input showsPrompt =>
    by_cases he : input.isEmpty = true
    · simp [read, readLine, he, answer] at h
    · simpa [read, readLine, he, left] using length_cutLine_rest_lt (by simpa using he)
  | typed keys =>
    by_cases hk : keys = []
    · subst hk; simp [read, readLine, typedLine, answer] at h
    · exact (length_typedLine [] keys).2 hk

instance : LineReader Editor where
  read := read
  linesLeft := left
  linesLeft_read h := left_read h

end Editor

end JobShell
