import JobShell.Script.Trap
import JobShell.Toolbox.Pattern

/-!
What words stand for.

An expanded word is a row of stretches.  Only what came of an expansion outside of quotation marks
may be split into fields, and only what was not quoted can be a sign of a pattern.
-/

namespace JobShell.Script

open Machine Toolbox

/-- A character of an expanded word. -/
inductive Glyph
  | char (c : Char)
  /-- A character that stands for itself. -/
  | literal (c : Char)
  /-- A quotation mark, which makes a field of nothing. -/
  | mark
  /-- The end of a parameter among several. -/
  | gap
  deriving DecidableEq, Repr

def Glyph.char? : Glyph → Option Char
  | .char c | .literal c => some c
  | .mark => none
  | .gap => none

/-- Where a stretch of an expanded word may be split. -/
inductive Seams
  | none_ | separators | gaps
  deriving DecidableEq, Repr

structure Stretch where
  seams : Seams
  glyphs : List Glyph

abbrev Expanded := List Stretch

namespace Expanded

def glyphs (e : Expanded) : List Glyph := e.flatMap (·.glyphs)

/-- The text without quotation. -/
def text (e : Expanded) : Text := e.glyphs.filterMap Glyph.char?

end Expanded

/-- The text of a pattern: what is quoted in it has a backslash before it. -/
def patternText (glyphs : List Glyph) : Text := go true glyphs
where
  go (escapes : Bool) : List Glyph → Text
    | [] => []
    | .mark :: rest => go true rest
    | .gap :: rest => go escapes rest
    | .char '\\' :: rest => '\\' :: go false rest
    | .char c :: rest => c :: go true rest
    | .literal c :: rest => if escapes then '\\' :: c :: go true rest else c :: go true rest

/-! ### Fields -/

/-- Where the splitting of a word stands. -/
structure Splitting where
  /-- The fields that are complete, the last first. -/
  done : List (List Glyph) := []
  /-- The present field, backwards. -/
  current : List Glyph := []
  /-- Blanks behind a field are being passed over. -/
  inBlanks : Bool := false
  /-- How many fields may still be split off. -/
  room : Option Nat := none
  /-- How long the last field is without the separators behind it. -/
  cut : Option Nat := none

namespace Splitting

/-- Takes a character of a stretch that may be split. -/
def take (separators : Text) (staysOpen : Bool) (s : Splitting) (glyph : Glyph) : Splitting :=
  let isSeparator := match glyph with
    | .gap => true
    | g => g.char?.any separators.contains
  let isBlank := match glyph with
    | .gap => true
    | g => isSeparator && g.char?.any State.usualSeparators.contains
  let kept := glyph :: s.current
  if s.room = some 0 then
    if isBlank then { s with current := kept, cut := some (s.cut.getD s.current.length) }
    else
      let cut := if isSeparator && s.inBlanks then s.cut else none
      { s with current := kept, cut, inBlanks := false }
  else if s.inBlanks then
    if isBlank then s
    else if isSeparator then { s with inBlanks := false }
    else { s with current := [glyph], inBlanks := false }
  else if !isSeparator then { s with current := kept }
  else
    let inBlanks := if staysOpen then false else isBlank
    if s.current.isEmpty && inBlanks then s
    else
      let room := s.room.map (· - 1)
      if room = some 0 then
        { s with room, inBlanks, cut := some s.current.length, current := kept }
      else { s with done := s.current.reverse :: s.done, current := [], inBlanks, room }

/-- Takes a stretch; `afterGaps` says whether the stretch before was split at gaps. -/
def takeStretch (separators : Text) (s : Splitting × Bool) (stretch : Stretch) :
    Splitting × Bool :=
  match stretch.seams with
  | .none_ => ({ s.1 with current := stretch.glyphs.reverse ++ s.1.current }, s.2)
  | seams =>
    let atGaps := seams == .gaps
    let step := take (if atGaps then [] else separators) (s.2 || atGaps)
    (stretch.glyphs.foldl step { s.1 with inBlanks := false }, atGaps)

/-- The fields, of which the last is left out if it is empty and nothing asks for it. -/
def fields (s : Splitting × Bool) : List (List Glyph) :=
  let current := match s.1.cut with
    | some n => s.1.current.reverse.take n
    | none => s.1.current.reverse
  if s.2 || !current.isEmpty then (current :: s.1.done).reverse else s.1.done.reverse

end Splitting

/-- Splits an expanded word into at most so many fields. -/
def Expanded.split (e : Expanded) (separators : Text) (room : Option Nat) : List (List Glyph) :=
  Splitting.fields (e.foldl (Splitting.takeStretch separators) ({ room }, false))

/-! ### Parameters -/

/-- How a word is expanded. -/
structure Mode where
  /-- Into fields and the names of files. -/
  isFull : Bool := false
  /-- As a pattern. -/
  isPattern : Bool := false
  /-- A tilde at the front stands for a directory. -/
  tilde : Bool := false
  /-- So does one behind the first equals sign or any colon. -/
  valueTilde : Bool := false
  /-- The first equals sign has been passed. -/
  isPastEquals : Bool := false
  /-- The word stands in a parameter. -/
  isInner : Bool := false
  isQuoted : Bool := false

namespace Mode

/-- Whether quotation matters for what is done later. -/
def keepsQuotes (mode : Mode) : Bool := mode.isFull || mode.isPattern

end Mode

/-- Home directories of users. -/
def homes : List (String × String) :=
  [("root", "/root"), ("daemon", "/usr/sbin"), ("bin", "/bin"), ("sys", "/dev"),
   ("sync", "/bin"), ("games", "/usr/games"), ("man", "/var/cache/man"), ("lp", "/var/spool/lpd"),
   ("mail", "/var/mail"), ("news", "/var/spool/news"), ("uucp", "/var/spool/uucp"),
   ("proxy", "/bin"), ("www-data", "/var/www"), ("backup", "/var/backups"), ("list", "/var/list"),
   ("irc", "/run/ircd"), ("nobody", "/nonexistent")]

namespace Expansion

/-- The value of a parameter: nothing if it is not set. -/
inductive Value
  | text (text : Text)
  /-- Several texts with gaps or a separator between them. -/
  | several (texts : List Text) (separator : Option Glyph)

def Value.glyphs (quoted : Bool) : Value → List Glyph
  | .text t => t.map (if quoted then .literal else .char)
  | .several texts separator =>
    let shown := texts.map fun t => t.map (if quoted then Glyph.literal else .char)
    List.intercalate separator.toList shown

def Value.length (value : Value) : Nat := (value.glyphs true).length

/-- All positional parameters. -/
def allParameters (mode : Mode) (quoted isStar : Bool) (s : State) : Value :=
  let gap := mode.isFull && (if quoted then !isStar else true)
  let usual := s.valueOf? "IFS".toList
  let separator : Option Glyph :=
    if gap && (quoted || usual.isSome) then some .gap
    else match usual with
      | some ifs => ifs.head?.map (if quoted then Glyph.literal else .char)
      | none => some (if quoted then .literal ' ' else .char ' ')
  .several s.parameters separator

def valueOf? (mode : Mode) (quoted : Bool) (name : Text) (s : State) : Option Value :=
  match name with
  | ['$'] => some (.text (Text.decimal s.number))
  | ['?'] => some (.text (Text.decimal s.status))
  | ['#'] => some (.text (Text.decimal s.parameters.length))
  | ['!'] => s.backgroundNumber.map fun n => .text (Text.decimal n)
  | ['-'] => some (.text s.switchLetters)
  | ['@'] => some (allParameters mode quoted false s)
  | ['*'] => some (allParameters mode quoted true s)
  | c :: _ =>
    if c.isDigit then
      let n := Text.valueOf 10 name
      if n = 0 then some (.text s.name) else s.parameters[n - 1]?.map .text
    else (s.valueOf? name).map .text
  | [] => none

/-- How output of commands is got. -/
abbrev Substitute := Option Command → Acts Text

/-- Expands a word that stands inside. -/
abbrev Inner := Mode → Word → Acts Expanded

def never (glyphs : List Glyph) : Expanded := if glyphs.isEmpty then [] else [⟨.none_, glyphs⟩]

/-- What came of an expansion, which may be split unless it was quoted. -/
def found (quoted : Bool) (text : Text) : Expanded :=
  [⟨if quoted then .none_ else .separators, text.map (if quoted then .literal else .char)⟩]

/-- The value of a parameter as it goes into a word. -/
def shown (quoted : Bool) (name : Text) (value : Value) (s : State) : Expanded :=
  let seams : Seams :=
    if !quoted then .separators
    else if name.head? = some '@' && !s.parameters.isEmpty then .gaps else .none_
  [⟨seams, value.glyphs quoted⟩]

def notSet {α : Type} (name : Text) (orNull : Bool) : Acts α :=
  Acts.fail (name ++ ": parameter not set".toList ++ (if orNull then " or null".toList else []))

/-- A character that is marked in a value while a word is being expanded. -/
def isMarked (quoted : Bool) (c : Char) : Bool :=
  ('\x81' ≤ c && c ≤ '\x88') || (quoted && "!*?[]=~:/-\\".toList.contains c)

/-- Takes off what a pattern matches at an end of a value. -/
def trimmed (quoted fromLeft greedy : Bool) (pattern : Text) (glyphs : List Glyph) : List Glyph :=
  let text := glyphs.map fun g => g.char?.getD '\x00'
  let isAligned := greedy == fromLeft && glyphs.contains .gap
    && (Pattern.upToNull text).any (isMarked quoted)
  let cut := if isAligned then Pattern.alignedCut? pattern fromLeft text
    else if fromLeft then Pattern.leftCut? pattern greedy text
    else Pattern.rightCut? pattern greedy text
  match cut with
  | some n => if fromLeft then glyphs.drop n else glyphs.take n
  | none => glyphs

/-- Expands a parameter. -/
def parameter (inner : Inner) (mode : Mode) (quoted : Bool) (name : Text) (use : Use)
    (orNull : Bool) (word : Word) : Acts Expanded := do
  let s ← get
  if use = .unknown then Acts.failWith "Bad substitution"
  let value := valueOf? mode quoted name s
  let counts := value.filter fun v => !(orNull && v.length = 0)
  let wordMode := { mode with tilde := true, isInner := true, isQuoted := quoted }
  let plainMode : Mode := { tilde := true }
  match use, counts with
  | .instead, some _ => inner wordMode word
  | .instead, none => pure [⟨if quoted then .none_ else .separators, []⟩]
  | .otherwise, some v => pure (shown quoted name v s)
  | .otherwise, none => inner wordMode word
  | .assign, none => do
    let text := (← inner plainMode word).text
    if !Text.isName name then Acts.fail (name ++ ": bad variable name".toList)
    Acts.setVariable name text
    pure (found quoted text)
  | .demand, none => do
    if word.isEmpty then notSet name orNull
    else Acts.fail (name ++ ": ".toList ++ (← inner plainMode word).text)
  | .length, v => do
    if v.isNone && s.has .refuseUnset then notSet name false
    pure (found quoted (Text.decimal ((v.map Value.length).getD 0)))
  | .trim fromLeft greedy, v => do
    if v.isNone && s.has .refuseUnset then notSet name false
    let pattern ← inner { tilde := true, isPattern := true } word
    match v with
    | none => pure [⟨if quoted then .none_ else .separators, []⟩]
    | some v =>
      pure ((shown quoted name v s).map fun stretch =>
        { stretch with
          glyphs := trimmed quoted fromLeft greedy (patternText pattern.glyphs) stretch.glyphs })
  | _, some v => pure (shown quoted name v s)
  | _, none =>
    if s.has .refuseUnset then notSet name false
    else pure [⟨if quoted then .none_ else .separators, []⟩]

/-- The value of an arithmetic expression. -/
def sum (text : Text) : Acts Int := do
  let s ← get
  let around : Arithmetic.Around := { valueOf? := s.valueOf?, isFixed := s.isFixed }
  match Arithmetic.evaluate around text with
  | .ok (n, assigned) => do
    for (name, value) in assigned do
      Acts.setVariable name (Text.ofInt value)
    pure n
  | .error (.expression reason) =>
    Acts.fail ("arithmetic expression: ".toList ++ reason.toList ++ ": \"".toList ++ text ++ ['"'])
  | .error (.number value) => Acts.fail ("Illegal number: ".toList ++ value)
  | .error (.fixed name) => Acts.fail (name ++ ": is read only".toList)
  | .error .overflow => do
    Acts.dieBy (Signal.number .fpe)
    pure 0

/-- The directory that a tilde and the pieces behind it stand for, and how many pieces that are. -/
def home? (s : State) (endsAtColon : Bool) (behind : Word) : Option (Text × Nat) :=
  let isEnd : Piece → Bool := fun
    | .char c => c == '/' || (endsAtColon && c == ':')
    | _ => false
  let name := behind.takeWhile (!isEnd ·)
  (Word.plain? name).bind fun text =>
    let home := if text.isEmpty then s.valueOf? "HOME".toList
      else (homes.lookup (String.ofList text)).map String.toList
    home.map fun h => (h, name.length)

/-- Characters at the front of a word that stand as they are, up to one behind which a tilde may
stand. -/
def run (endsAtColon : Bool) : Word → Text
  | .char c :: rest =>
    if endsAtColon && (c == ':' || c == '=') then [c] else c :: run endsAtColon rest
  | _ => []

/-- The quoted form of all parameters, which makes no field of its own. -/
def isAllParameters : Word → Bool
  | .mark :: .parameter ['@'] .value false [] :: .mark :: _ => true
  | _ => false

/-- Expands the pieces of a word in turn, of which some may have to be skipped. -/
def pieces (substitute : Substitute) (inner : Inner) : Mode → Bool → Bool → Nat → Word →
    Acts Expanded
  | _, _, _, _, [] => pure []
  | mode, quotes, atTilde, skip + 1, _ :: rest =>
    pieces substitute inner mode quotes atTilde skip rest
  | mode, quotes, atTilde, 0, piece :: rest => do
    let quoted := mode.isQuoted || quotes
    let goOn := fun (front : Expanded) (quotes : Bool) => do
      pure (front ++ (← pieces substitute inner mode quotes false 0 rest))
    match piece with
    | .char c => do
      let s ← get
      match if atTilde && c == '~' then home? s mode.valueTilde rest else none with
      | some (text, count) =>
        let front := never (text.map .literal)
        pure (front ++ (← pieces substitute inner mode quotes false count rest))
      | none =>
        let text := run mode.valueTilde (piece :: rest)
        let splits := mode.isInner && !mode.isQuoted && !quotes
        let front : Expanded := [⟨if splits then .separators else .none_, text.map .char⟩]
        let last := text.getLast?
        let isFirstEquals := last = some '=' && !mode.isPastEquals
        let mode' :=
          if mode.valueTilde && isFirstEquals then { mode with isPastEquals := true } else mode
        let atTilde := mode.valueTilde && (isFirstEquals || last = some ':')
        pure (front ++ (← pieces substitute inner mode' quotes atTilde (text.length - 1) rest))
    | .literal c => goOn (never [.literal c]) quotes
    | .mark =>
      if !quotes && isAllParameters (piece :: rest) then do
        let front ← parameter inner mode true ['@'] .value false []
        pure (front ++ (← pieces substitute inner mode quotes false 2 rest))
      else goOn (if mode.keepsQuotes then never [.mark] else []) (!quotes)
    | .parameter name use orNull word => do
      goOn (← parameter inner mode quoted name use orNull word) quotes
    | .output body => do goOn (found quoted (← substitute body)) quotes
    | .sum expression => do
      let text := (← inner {} expression).text
      goOn (found quoted (Text.ofInt (← sum text))) quotes

/-- Expands a word whose parts stand in each other to a depth. -/
def toDepth (substitute : Substitute) : Nat → Inner
  | 0, _, _ => pure []
  | depth + 1, mode, word =>
    pieces substitute (toDepth substitute depth) mode false mode.tilde 0 word

def depth : Nat := 1000

/-- Expands a word. -/
def word (substitute : Substitute) (mode : Mode) (w : Word) : Acts Expanded :=
  toDepth substitute depth mode w

/-- The text that a word stands for where nothing is split. -/
def text (substitute : Substitute) (mode : Mode) (w : Word) : Acts Text := do
  pure (← word substitute mode w).text

end Expansion

end JobShell.Script
