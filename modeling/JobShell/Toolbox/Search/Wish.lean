import JobShell.Toolbox.Call
import JobShell.Toolbox.Expression.Spelling
import JobShell.Toolbox.Number
import JobShell.Toolbox.Options

/-!
What is to be searched for, and what is to be shown of it.

The options of a search are taken in their order, and the first that cannot be understood ends it.
-/

namespace JobShell.Toolbox.Search

open Machine

/-- How the patterns are written. -/
inductive Matcher
  | basic | extended | fixed | perl
  deriving DecidableEq

/-- What is named instead of shown. -/
inductive Listing
  | none
  /-- The files in which a line has been selected. -/
  | selected
  /-- The others. -/
  | unselected
  deriving DecidableEq

/-- What is done with a directory. -/
inductive ForDirectory
  | read | recurse | skip
  deriving DecidableEq

/-- What is done with a file that is no text. -/
inductive ForBinary
  | mentioned | text | passedOver
  deriving DecidableEq

structure Wish where
  matcher : Option Matcher := none
  /-- The patterns, each followed by a line end; nothing if no option gave any. -/
  patterns : Option Text := none
  ignoresCase : Bool := false
  wholeLine : Bool := false
  wholeWord : Bool := false
  inverted : Bool := false
  /-- Lines end in a null byte. -/
  nullEnds : Bool := false
  forBinary : ForBinary := .mentioned
  forDirectory : ForDirectory := .read
  followsLinks : Bool := false
  included : List Text := []
  excluded : List Text := []
  excludedDirectories : List Text := []
  counts : Bool := false
  listing : Listing := .none
  isQuiet : Bool := false
  isSilent : Bool := false
  most : Option Nat := none
  /-- Names are shown, or never shown. -/
  showsNames : Option Bool := none
  showsNumbers : Bool := false
  showsOffsets : Bool := false
  onlyMatching : Bool := false
  aligns : Bool := false
  nullAfterName : Bool := false
  label : Text := "(standard input)".toList
  before : Option Nat := none
  behind : Option Nat := none
  around : Option Nat := none
  digits : Text := []
  separator : Option Text := some "--".toList

/-- The digits of a number of context lines, each of which is an option of its own. -/
def digitLetters : List Char := "0123456789".toList

def options : OptionSet where
  short := digitLetters.map (·, .nothing) ++
    [('A', .argument), ('B', .argument), ('C', .argument), ('D', .argument), ('E', .nothing),
      ('F', .nothing), ('G', .nothing), ('H', .nothing), ('I', .nothing), ('L', .nothing),
      ('P', .nothing), ('T', .nothing), ('U', .nothing), ('V', .nothing), ('X', .argument),
      ('Z', .nothing), ('a', .nothing), ('b', .nothing), ('c', .nothing), ('d', .argument),
      ('e', .argument), ('f', .argument), ('h', .nothing), ('i', .nothing), ('l', .nothing),
      ('m', .argument), ('n', .nothing), ('o', .nothing), ('q', .nothing), ('r', .nothing),
      ('R', .nothing), ('s', .nothing), ('u', .nothing), ('v', .nothing), ('w', .nothing),
      ('x', .nothing), ('y', .nothing), ('z', .nothing)]
  long := [("basic-regexp", .nothing, 'G'), ("extended-regexp", .nothing, 'E'),
    ("fixed-regexp", .nothing, 'F'), ("fixed-strings", .nothing, 'F'),
    ("perl-regexp", .nothing, 'P'), ("after-context", .argument, 'A'),
    ("before-context", .argument, 'B'), ("binary-files", .argument, '%'),
    ("binary", .nothing, 'U'), ("byte-offset", .nothing, 'b'), ("context", .argument, 'C'),
    ("color", .maybe, '/'), ("colour", .maybe, '/'), ("count", .nothing, 'c'),
    ("devices", .argument, 'D'), ("directories", .argument, 'd'), ("exclude", .argument, '+'),
    ("exclude-from", .argument, '*'), ("exclude-dir", .argument, ','), ("file", .argument, 'f'),
    ("files-with-matches", .nothing, 'l'), ("files-without-match", .nothing, 'L'),
    ("group-separator", .argument, '-'), ("help", .nothing, '?'), ("include", .argument, '='),
    ("ignore-case", .nothing, 'i'), ("no-ignore-case", .nothing, 'j'),
    ("initial-tab", .nothing, 'T'), ("label", .argument, ':'), ("line-buffered", .nothing, 'U'),
    ("line-number", .nothing, 'n'), ("line-regexp", .nothing, 'x'), ("max-count", .argument, 'm'),
    ("no-filename", .nothing, 'h'), ("no-group-separator", .nothing, '_'),
    ("no-messages", .nothing, 's'), ("null", .nothing, 'Z'), ("null-data", .nothing, 'z'),
    ("only-matching", .nothing, 'o'), ("quiet", .nothing, 'q'), ("recursive", .nothing, 'r'),
    ("dereference-recursive", .nothing, 'R'), ("regexp", .argument, 'e'),
    ("invert-match", .nothing, 'v'), ("silent", .nothing, 'q'), ("text", .nothing, 'a'),
    ("unix-byte-offsets", .nothing, 'u'), ("version", .nothing, 'V'),
    ("with-filename", .nothing, 'H'), ("word-regexp", .nothing, 'w')]

/-- How the search goes on after an option. -/
inductive Step
  | goOn (wish : Wish)
  | stop (status : Nat)

/-- Complains; the search ends. -/
def refuse (call : Call) (text : Text) : Doing Step := do
  complain (call.message text)
  pure (.stop 2)

/-- How the program is to be called. -/
def usage (call : Call) : Text :=
  let name := (call.name.reverse.takeWhile (· != '/')).reverse
  "Usage: ".toList ++ name ++ " [OPTION]... PATTERNS [FILE]...\nTry '".toList ++ name ++
    " --help' for more information.\n".toList

def setMatcher (call : Call) (wish : Wish) (matcher : Matcher) : Doing Step :=
  match wish.matcher with
  | none => pure (.goOn { wish with matcher := some matcher })
  | some other =>
    if other = matcher then pure (.goOn wish)
    else refuse call "conflicting matchers specified".toList

/-- The whole number that a text is; not more than can be kept is taken of it. -/
def whole? (text : Text) : Option Int :=
  let s := Scanned.ofFront false text
  if s.rest.isEmpty && !text.isEmpty then some s.signed.1 else none

def lines? (call : Call) (text : Text) : Doing (Except Step Nat) := do
  match whole? text with
  | some n =>
    if 0 ≤ n then pure (.ok n.toNat)
    else pure (.error (← refuse call (text ++ ": invalid context length argument".toList)))
  | none => pure (.error (← refuse call (text ++ ": invalid context length argument".toList)))

/-- Adds patterns, one in each line. -/
def addPatterns (wish : Wish) (text : Text) : Wish :=
  { wish with patterns := some (wish.patterns.getD [] ++ text) }

/-- Everything that a file holds, or the standard input for a hyphen. -/
def contentOf (name : Text) : Doing (Except Errno Text) := do
  if name == ['-'] then pure ((← Doing.readAll 0 1000000000).map Bytes.toLatin)
  else
    match ← Doing.ask (.openFile (path name) { reads := true }) with
    | .error e => pure (.error e)
    | .ok descriptor => do
      let content ← Doing.readAll descriptor 1000000000
      Doing.ask (.close descriptor)
      pure (content.map Bytes.toLatin)

/-- A text of lines whose last one ends as well. -/
def withLineEnd (text : Text) : Text :=
  if text.isEmpty || text.getLast? == some '\n' then text else text ++ ['\n']

def directoryWords : List (String × ForDirectory) :=
  [("read", .read), ("recurse", .recurse), ("skip", .skip)]

def binaryWords : List (String × ForBinary) :=
  [("binary", .mentioned), ("text", .text), ("without-match", .passedOver)]

def matcherWords : List (String × Matcher) :=
  [("grep", .basic), ("egrep", .extended), ("fgrep", .fixed), ("perl", .perl)]

/-- The message on a word that an option does not know. -/
def unknownWord (option : String) (words : List String) (text : Text) : Text :=
  "invalid argument ".toList ++ Text.told text ++ " for '--".toList ++ option.toList ++
    "'\nValid arguments are:".toList ++
    words.flatMap fun w => "\n  - '".toList ++ w.toList ++ ['\'']

/-- Takes one option. -/
def take (call : Call) (wish : Wish) (given : Given) : Doing Step := do
  let text := given.argument
  let goOn := fun (wish : Wish) => (pure (.goOn wish) : Doing Step)
  match given.letter with
  | 'E' => setMatcher call wish .extended
  | 'F' => setMatcher call wish .fixed
  | 'G' => setMatcher call wish .basic
  | 'P' => setMatcher call wish .perl
  | 'X' =>
    match matcherWords.lookup (String.ofList text) with
    | some matcher => setMatcher call wish matcher
    | none => refuse call ("invalid matcher ".toList ++ text)
  | 'A' =>
    match ← lines? call text with
    | .ok n => goOn { wish with behind := some n }
    | .error step => pure step
  | 'B' =>
    match ← lines? call text with
    | .ok n => goOn { wish with before := some n }
    | .error step => pure step
  | 'C' =>
    match ← lines? call text with
    | .ok n => goOn { wish with around := some n }
    | .error step => pure step
  | 'm' =>
    match whole? text with
    | some n => goOn { wish with most := if n < 0 then none else some n.toNat }
    | none => refuse call "invalid max count".toList
  | 'e' => goOn (addPatterns wish (text ++ ['\n']))
  | 'f' =>
    match ← contentOf text with
    | .ok content => goOn (addPatterns wish (withLineEnd content))
    | .error e => refuse call (Call.because text e)
  | 'd' =>
    match directoryWords.lookup (String.ofList text) with
    | some forDirectory => goOn { wish with forDirectory }
    | none => do
      complain (call.message (unknownWord "directories" (directoryWords.map (·.1)) text))
      complain (usage call)
      pure (.stop 1)
  | 'D' =>
    if text == "read".toList || text == "skip".toList then goOn wish
    else refuse call "unknown devices method".toList
  | '%' =>
    match binaryWords.lookup (String.ofList text) with
    | some forBinary => goOn { wish with forBinary }
    | none => refuse call "unknown binary-files type".toList
  | 'r' => goOn { wish with forDirectory := .recurse, followsLinks := false }
  | 'R' => goOn { wish with forDirectory := .recurse, followsLinks := true }
  | 'a' => goOn { wish with forBinary := .text }
  | 'I' => goOn { wish with forBinary := .passedOver }
  | 'i' | 'y' => goOn { wish with ignoresCase := true }
  | 'j' => goOn { wish with ignoresCase := false }
  | 'v' => goOn { wish with inverted := true }
  | 'w' => goOn { wish with wholeWord := true }
  | 'x' => goOn { wish with wholeLine := true }
  | 'z' => goOn { wish with nullEnds := true }
  | 'c' => goOn { wish with counts := true }
  | 'l' => goOn { wish with listing := .selected }
  | 'L' => goOn { wish with listing := .unselected }
  | 'q' => goOn { wish with isQuiet := true }
  | 's' => goOn { wish with isSilent := true }
  | 'n' => goOn { wish with showsNumbers := true }
  | 'H' => goOn { wish with showsNames := some true }
  | 'h' => goOn { wish with showsNames := some false }
  | 'o' => goOn { wish with onlyMatching := true }
  | 'b' => goOn { wish with showsOffsets := true }
  | 'T' => goOn { wish with aligns := true }
  | 'Z' => goOn { wish with nullAfterName := true }
  | ':' => goOn { wish with label := text }
  | '-' => goOn { wish with separator := some text }
  | '_' => goOn { wish with separator := none }
  | '=' => goOn { wish with included := text :: wish.included }
  | '+' => goOn { wish with excluded := text :: wish.excluded }
  | ',' => goOn { wish with excludedDirectories := text :: wish.excludedDirectories }
  | 'u' => do
    complain (call.message "warning: --unix-byte-offsets (-u) is obsolete".toList)
    goOn wish
  | c => goOn (if digitLetters.contains c then { wish with digits := wish.digits ++ [c] } else wish)

def takeAll (call : Call) (wish : Wish) : List Given → Doing Step
  | [] => pure (.goOn wish)
  | given :: rest => do
    match ← take call wish given with
    | .goOn wish => takeAll call wish rest
    | .stop status => pure (.stop status)

namespace Wish

/-- The lines of context before and behind a selected line; nothing if none were asked for. -/
def context (wish : Wish) : Option (Nat × Nat) :=
  let around := if wish.digits.isEmpty then wish.around else some (Text.valueOf 10 wish.digits)
  match wish.before <|> around, wish.behind <|> around with
  | none, none => none
  | before, behind => some (before.getD 0, behind.getD 0)

/-- Only whether lines are selected counts, not which. -/
def stopsAtFirst (wish : Wish) : Bool := wish.isQuiet || wish.listing != .none

end Wish

end JobShell.Toolbox.Search
