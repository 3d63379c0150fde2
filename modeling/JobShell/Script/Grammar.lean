import JobShell.Script.Scan

/-!
Reading commands.

Commands are read one list at a time, up to the end of a line, so that what one line does can change
how the next is read.  `grammar` says how commands stand in each other, to a depth that no script
comes near.
-/

namespace JobShell.Script

open Toolbox Reads

/-- The readers of commands that other commands are made of. -/
structure Grammar where
  /-- A list that ends at a line end only outside of all else; `mayBeEmpty` lets it hold nothing. -/
  list : (mayBeEmpty : Bool) → Reads (Option Command)
  command : Reads Command
  /-- The here-documents that have been announced. -/
  documents : Reads Unit

/-- Commands whose names no function may have. -/
def specialNames : List String :=
  [".", ":", "break", "continue", "eval", "exec", "exit", "export", "readonly", "return", "set",
   "shift", "times", "trap", "unset"]

namespace Grammar

/-- Without this depth nothing is read. -/
def none_ : Grammar :=
  ⟨fun _ => fail "too deeply nested", fail "too deeply nested", pure ()⟩

def unexpected {α : Type} (expected : Option Token := none) : Reads α := do
  let seen := (← get).token.text
  match expected with
  | some token => fail s!"{seen} unexpected (expecting {token.text})"
  | none => fail s!"{seen} unexpected"

def refuse {α : Type} (text : String) : Reads α := fail text

def setToken (token : Token) : Reads Token := do
  modify fun r => { r with token }
  pure token

def pushBack : Reads Unit := modify fun r => { r with isPushedBack := true }

def heed (attention : Attention) : Reads Unit := modify fun r => { r with attention }

/-- Aliases and keywords are looked for. -/
def atCommand : Attention := { aliases := true, keywords := true }

def atCommandLines : Attention := { aliases := true, keywords := true, newlines := true }

/-- Reads the redirection whose sign ends a word of at most one digit. -/
def redirectionSign (digit : Option Char) (sign : Char) : Reads Token := do
  let usual := if sign == '>' then 1 else 0
  let descriptor := (digit.map Text.digitValue).getD usual
  let c ← nextJoined
  let give := fun (pending : Pending) => do
    modify fun r => { r with pending }
    setToken .redirection
  if sign == '>' then
    match c with
    | some '>' => give (.file descriptor .append)
    | some '|' => give (.file descriptor .clobber)
    | some '&' => give (.copy descriptor)
    | c => do
      back c
      give (.file descriptor .to_)
  else
    match c with
    | some '<' => do
      let d ← nextJoined
      if d = some '-' then give (.document descriptor true)
      else do
        back d
        give (.document descriptor false)
    | some '&' => give (.copy descriptor)
    | some '>' => give (.file descriptor .both)
    | c => do
      back c
      give (.file descriptor .from_)

/-- Reads a word that starts with a character. -/
def wordToken (inner : Inner) (c : Option Char) : Reads Token := do
  let (s, after) ← Scan.loop inner none bound c { level := { manner := .base } }
  s.checkEnd false
  let word := s.word
  let sign := after.filter fun c => c == '<' || c == '>'
  let digit : Option (Option Char) := match word with
    | [] => some none
    | [.char d] => if d.isDigit then some (some d) else none
    | _ => none
  match sign, digit with
  | some sign, some digit =>
    if s.isQuoted then do
      back after
      modify fun r => { r with word, isQuoted := s.isQuoted }
      setToken .word
    else redirectionSign digit sign
  | _, _ => do
    back after
    modify fun r => { r with word, isQuoted := s.isQuoted }
    setToken .word

def skipComment : Nat → Reads Unit
  | 0 => pure ()
  | fuel + 1 => do
    match ← next with
    | some '\n' => back (some '\n')
    | none => pure ()
    | _ => skipComment fuel

/-- One of two tokens, by whether the character is doubled. -/
def doubled (c : Char) (single double : Token) : Reads Token := do
  let d ← nextJoined
  if d = some c then setToken double
  else do
    back d
    setToken single

/-- Reads a token as it stands. -/
def bareToken (inner : Inner) : Nat → Reads Token
  | 0 => setToken .endOfInput
  | fuel + 1 => do
    let r ← get
    if r.isPushedBack then
      set { r with isPushedBack := false }
      pure r.token
    else
      match ← nextJoined with
      | some ' ' | some '\t' => bareToken inner fuel
      | some '#' => do
        skipComment bound
        bareToken inner fuel
      | some '\n' => do
        newLine
        setToken .newline
      | none => setToken .endOfInput
      | some '&' => doubled '&' .ampersand .and_
      | some '|' => doubled '|' .bar .or_
      | some ';' => doubled ';' .semicolon .endOfBranch
      | some '(' => setToken .open_
      | some ')' => setToken .close
      | c => wordToken inner c

/-- Reads the here-documents that have been announced. -/
def readDocuments (inner : Inner) : List Announced → Reads Unit
  | [] => pure ()
  | d :: rest => do
    let manner : Manner := if d.expands then .double else .single
    let c ← if d.expands then nextJoined else next
    let document := (d.mark, d.stripsTabs)
    let level : Level := { manner, isDouble := d.expands }
    let c ← Scan.lineStart (some document) c
    let (s, after) ← Scan.loop inner (some document) bound c { level }
    back after
    s.checkEnd true
    modify fun r => { r with documents := (d.number, s.word) :: r.documents }
    readDocuments inner rest

def readAnnounced (inner : Inner) : Reads Unit := do
  let announced := (← get).announced
  modify fun r => { r with announced := [] }
  readDocuments inner announced

/-- Reads over the ends of lines. -/
def skipNewlines (inner : Inner) : Nat → Token → Reads Token
  | 0, token => pure token
  | fuel + 1, token =>
    if token = .newline then do
      readAnnounced inner
      heed {}
      skipNewlines inner fuel (← bareToken inner bound)
    else pure token

/-- Reads a token with attention to what words may mean. -/
def tokenWith (inner : Inner) : Nat → Attention → Reads Token
  | 0, _ => setToken .endOfInput
  | fuel + 1, attention => do
    let token ← bareToken inner bound
    let token ← if attention.newlines then skipNewlines inner bound token else pure token
    let r ← get
    let attention := { attention with aliases := attention.aliases || r.attention.aliases }
    heed {}
    if token != .word || r.isQuoted then pure token
    else match r.word.plain? with
      | none => pure token
      | some text =>
        match if attention.keywords then Keyword.ofText? text else none with
        | some k => setToken (.keyword k)
        | none =>
          if !attention.aliases then pure token
          else match ← alias? text with
            | none => pure token
            | some value => do
              if !value.isEmpty then insert text value
              tokenWith inner fuel attention

def readToken (inner : Inner) : Reads Token := do tokenWith inner bound (← get).attention

/-- How commands inside words are read.  Behind a list its last token has been pushed back. -/
def inner (g : Grammar) : Inner where
  enclosed := do
    let body ← g.list true
    let r ← get
    if r.token != .close then unexpected (some .close)
    set { r with isPushedBack := false }
    g.documents
    pure body
  whole := do
    let body ← g.list true
    g.documents
    pure body

/-! ### Simple commands -/

variable (g : Grammar)

def token : Reads Token := readToken g.inner

def tokenHeeding (attention : Attention) : Reads Token := do
  heed attention
  g.token

/-- Requires a token. -/
def expect (token : Token) : Reads Unit := do
  if (← g.token) != token then unexpected (some token)

/-- Reads the word of a redirection. -/
def redirectionWord : Reads Redirection := do
  let pending := (← get).pending
  let isDocument := match pending with
    | .document _ _ => true
    | _ => false
  if isDocument then heed { isMark := true }
  if (← g.token) != .word then unexpected
  let r ← get
  match pending with
  | .file descriptor access => pure (.file descriptor access r.word)
  | .copy descriptor => pure (.copy descriptor r.word)
  | .document descriptor stripsTabs =>
    let number := r.nextDocument
    let announced : Announced :=
      { number, mark := r.word.bare, expands := !r.isQuoted, stripsTabs }
    set { r with nextDocument := number + 1, announced := r.announced ++ [announced] }
    pure (.document descriptor number (!r.isQuoted))

/-- The parts of a simple command, the latest first. -/
structure Simple where
  assignments : List Word := []
  words : List Word := []
  redirections : List Redirection := []

/-- Reads a function behind its name and an opening parenthesis. -/
def function (name : Word) : Reads Command := do
  g.expect .close
  match name.plain? with
  | some text =>
    if !Text.isName text || specialNames.contains (String.ofList text) then
      refuse "Bad function name"
    else do
      heed atCommandLines
      let line := (← get).line
      pure (.define line text (← g.command))
  | none => refuse "Bad function name"

/-- Reads on in a simple command; words may be assignments or aliases as long as `isOpen`. -/
def simpleParts (line : Nat) : Nat → Bool → Simple → Reads Command
  | 0, _, parts => finish parts
  | fuel + 1, isOpen, parts => do
    heed { aliases := isOpen }
    match ← g.token with
    | .word =>
      let word := (← get).word
      if isOpen && word.assignment?.isSome then
        simpleParts line fuel true { parts with assignments := word :: parts.assignments }
      else simpleParts line fuel false { parts with words := word :: parts.words }
    | .redirection => do
      let r ← g.redirectionWord
      simpleParts line fuel isOpen { parts with redirections := r :: parts.redirections }
    | .open_ =>
      match parts with
      | ⟨[], [name], []⟩ => g.function name
      | _ => do
        pushBack
        finish parts
    | _ => do
      pushBack
      finish parts
where
  finish (parts : Simple) : Reads Command :=
    pure (.simple line parts.assignments.reverse parts.words.reverse parts.redirections.reverse)

/-- Reads a simple command or a function. -/
def simple : Reads Command := do g.simpleParts (← get).line bound true {}

/-! ### Compound commands -/

/-- What follows the condition of a choice, up to its end. -/
def choiceRest : Nat → Reads Command
  | 0 => refuse "too deeply nested"
  | fuel + 1 => do
    let condition ← g.list false
    g.expect (.keyword .then_)
    let yes ← g.list false
    match ← g.token with
    | .keyword .elif => do
      let no ← choiceRest fuel
      pure (.choice condition yes (some no))
    | .keyword .else_ => do
      let no ← g.list false
      pure (.choice condition yes no)
    | _ => do
      pushBack
      pure (.choice condition yes none)

def loop (untilTrue : Bool) : Reads Command := do
  let condition ← g.list false
  g.expect (.keyword .do_)
  let body ← g.list false
  pure (.loop untilTrue condition body)

/-- The words of a loop over words. -/
def words : Nat → Reads (List Word)
  | 0 => pure []
  | fuel + 1 => do
    if (← g.token) = .word then
      let word := (← get).word
      pure (word :: (← words fuel))
    else pure []

/-- All parameters, each as one word. -/
def allParameters : Word := [.mark, .parameter ['@'] .value false [], .mark]

def each (line : Nat) : Reads Command := do
  let token ← g.token
  let r ← get
  match if token = .word && !r.isQuoted then r.word.plain? else none with
  | none => refuse "Bad for loop variable"
  | some name =>
    if !Text.isName name then refuse "Bad for loop variable"
    else do
      let words ← do
        if (← g.tokenHeeding atCommandLines) = .keyword .in_ then do
          let words ← g.words bound
          let ending := (← get).token
          if ending != .newline && ending != .semicolon then unexpected
          pure words
        else do
          if (← get).token != .semicolon then pushBack
          pure [allParameters]
      heed atCommandLines
      g.expect (.keyword .do_)
      let body ← g.list false
      pure (.each line name words body)

/-- The patterns of a branch, of which the first token has been read. -/
def patterns : Nat → Reads (List Word)
  | 0 => pure []
  | fuel + 1 => do
    let word := (← get).word
    if (← g.token) = .bar then do
      let _ ← g.token
      pure (word :: (← patterns fuel))
    else pure [word]

/-- The branches of a selection. -/
def branches : Nat → Reads (List (List Word × Option Command))
  | 0 => pure []
  | fuel + 1 => do
    let lines : Attention := { keywords := true, newlines := true }
    match ← g.tokenHeeding lines with
    | .keyword .esac => pure []
    | token => do
      if token = .open_ then
        let _ ← g.token
      let patterns ← g.patterns bound
      if (← get).token != .close then unexpected (some .close)
      let body ← g.list true
      match ← g.tokenHeeding lines with
      | .keyword .esac => pure [(patterns, body)]
      | .endOfBranch => do pure ((patterns, body) :: (← branches fuel))
      | _ => unexpected (some .endOfBranch)

def select (line : Nat) : Reads Command := do
  if (← g.token) != .word then unexpected (some .word)
  let word := (← get).word
  heed atCommandLines
  g.expect (.keyword .in_)
  pure (.select line word (← g.branches bound))

/-- The redirections behind a compound command. -/
def redirections : Nat → Reads (List Redirection)
  | 0 => pure []
  | fuel + 1 => do
    if (← g.token) = .redirection then do
      let r ← g.redirectionWord
      pure (r :: (← redirections fuel))
    else do
      pushBack
      pure []

/-- Adds the redirections behind a command. -/
def withRedirections (line : Nat) (command : Command) : Reads Command := do
  heed atCommand
  let redirections ← g.redirections bound
  pure (match redirections, command with
    | [], command => command
    | _, .subshell line body _ => .subshell line body redirections
    | _, command => .redirected line command redirections)

/-- Reads a command. -/
def oneCommand : Reads Command := do
  let line := (← get).line
  let ended := fun (ending : Token) (command : Command) => do
    g.expect ending
    g.withRedirections line command
  match ← g.token with
  | .keyword .if_ => do ended (.keyword .fi) (← g.choiceRest bound)
  | .keyword .while_ => do ended (.keyword .done_) (← g.loop false)
  | .keyword .until_ => do ended (.keyword .done_) (← g.loop true)
  | .keyword .for_ => do ended (.keyword .done_) (← g.each line)
  | .keyword .case_ => do g.withRedirections line (← g.select line)
  | .open_ => do ended .close (.subshell line (← g.list false) [])
  | .keyword .begin_ => do
    let body ← g.list false
    g.expect (.keyword .end_)
    match body with
    | some body => g.withRedirections line body
    | none => unexpected
  | .word | .redirection => do
    pushBack
    g.simple
  | _ => unexpected

/-! ### Lists -/

/-- The commands of a pipeline behind the first. -/
def pipelineRest : Nat → Reads (List Command)
  | 0 => pure []
  | fuel + 1 => do
    if (← g.token) = .bar then do
      heed atCommandLines
      let command ← g.oneCommand
      pure (command :: (← pipelineRest fuel))
    else do
      pushBack
      pure []

def pipeline : Reads Command := do
  let isNegated := (← g.token) = .keyword .not_
  if isNegated then heed atCommand else pushBack
  let first ← g.oneCommand
  let rest ← g.pipelineRest bound
  let command := if rest.isEmpty then first else .pipeline (first :: rest) false
  pure (if isNegated then .negated command else command)

def conditionalRest : Nat → Command → Reads Command
  | 0, first => pure first
  | fuel + 1, first => do
    match ← g.token with
    | .and_ => do
      heed atCommandLines
      conditionalRest fuel (.both first (← g.pipeline))
    | .or_ => do
      heed atCommandLines
      conditionalRest fuel (.either first (← g.pipeline))
    | _ => do
      pushBack
      pure first

def conditional : Reads Command := do g.conditionalRest bound (← g.pipeline)

/-- A command that is not waited for. -/
def inBackground : Command → Command
  | .pipeline commands _ => .pipeline commands true
  | .redirected line body redirections => .background line body redirections
  | command => .background 0 command []

/-- How far a list goes. -/
inductive Extent
  /-- To the end of the line. -/
  | line
  /-- To a token that ends lists; the first command is required. -/
  | filled
  | mayBeEmpty
  deriving DecidableEq

/-- What has been read of a list. -/
inductive Listed
  | endOfInput
  | commands (command : Option Command)

/-- Reads on in a list. -/
def listRest (extent : Extent) : Nat → Extent → Option Command → Reads Listed
  | 0, _, before => pure (.commands before)
  | fuel + 1, stage, before => do
    let atEnd := do
      readAnnounced g.inner
      pushBack
      let _ ← setToken .endOfInput
      pure (Listed.commands before)
    match ← g.tokenHeeding { atCommand with newlines := extent != .line } with
    | .newline => do
      readAnnounced g.inner
      pure (.commands before)
    | .endOfInput =>
      if before.isNone && extent = .line then do
        let _ ← atEnd
        pure .endOfInput
      else atEnd
    | token => do
      pushBack
      if stage = .mayBeEmpty && token.endsList then pure (.commands before)
      else
        let command ← g.conditional
        let ending ← g.token
        let command := if ending = .ampersand then inBackground command else command
        let all := match before with
          | none => command
          | some first => .sequence first command
        let stage : Extent := if extent = .line then .line else .mayBeEmpty
        match ending with
        | .endOfInput => do
          readAnnounced g.inner
          pushBack
          pure (.commands (some all))
        | .newline => do
          pushBack
          listRest extent fuel stage (some all)
        | .ampersand | .semicolon => listRest extent fuel stage (some all)
        | _ =>
          if extent = .line then unexpected
          else do
            pushBack
            pure (.commands (some all))

def listTo (extent : Extent) : Reads (Option Command) := do
  match ← g.listRest extent bound extent none with
  | .endOfInput => pure none
  | .commands command => pure command

/-- Commands whose parts are read by a grammar. -/
def step (g : Grammar) : Grammar where
  list mayBeEmpty := g.listTo (if mayBeEmpty then .mayBeEmpty else .filled)
  command := g.oneCommand
  documents := readAnnounced g.inner

/-- How deep commands may stand in each other. -/
def depth : Nat := 300

/-- The grammar to a depth. -/
def toDepth : Nat → Grammar
  | 0 => none_
  | depth + 1 => (toDepth depth).step

end Grammar

/-- Reads the commands up to the end of a line. -/
def readLine : Reads Grammar.Listed := do
  modify fun r => { r with isPushedBack := false, attention := {}, announced := [] }
  (Grammar.toDepth Grammar.depth).listRest .line bound .line none

end JobShell.Script
