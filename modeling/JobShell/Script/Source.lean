import JobShell.Script.Syntax

/-!
The characters that commands are read from, and what a reader keeps in mind.

A reader can put back what it has read.  The text of an alias is read before what follows its name;
while it is read, the alias itself is out of use.
-/

namespace JobShell.Script

open Toolbox

/-- What cannot be read, and in which line that was noticed. -/
structure Fault where
  line : Nat
  text : String
  deriving Inhabited

/-- What a word is looked at for when it is read. -/
structure Attention where
  aliases : Bool := false
  keywords : Bool := false
  /-- Newlines are passed over. -/
  newlines : Bool := false
  /-- The word is the mark of a here-document, in which nothing is expanded. -/
  isMark : Bool := false

/-- A redirection whose word has not been read yet. -/
inductive Pending
  | file (descriptor : Nat) (access : Access)
  | copy (descriptor : Nat)
  | document (descriptor : Nat) (stripsTabs : Bool)
  deriving Inhabited

/-- A here-document that has been announced. -/
structure Announced where
  number : Nat
  mark : Text
  expands : Bool
  stripsTabs : Bool

/-- The text of an alias that is being read: how much was left when it began, and its name. -/
structure Inserted where
  name : Text
  /-- How many characters will be left when the text has been read. -/
  behind : Nat
  endsInBlank : Bool

structure Reading where
  rest : Text
  /-- The number of characters that are left. -/
  left : Nat
  line : Nat := 1
  inserted : List Inserted := []
  aliases : List (Text × Text) := []
  attention : Attention := {}
  isPushedBack : Bool := false
  token : Token := .newline
  word : Word := []
  /-- Something in the last word was quoted. -/
  isQuoted : Bool := false
  pending : Pending := default
  announced : List Announced := []
  /-- The here-documents that have been read, with their numbers. -/
  documents : List (Nat × Word) := []
  nextDocument : Nat := 0
  deriving Inhabited

/-- A part of reading. -/
abbrev Reads (α : Type) := StateT Reading (Except Fault) α

namespace Reads

def fail {α : Type} (text : String) : Reads α := do
  throw { line := (← get).line, text }

/-- The text of an alias ends where nothing of it is left. -/
def leaveInserted : Reads Unit := do
  let r ← get
  match r.inserted with
  | top :: outer =>
    if r.left ≤ top.behind then
      set { r with
        inserted := outer
        attention := if top.endsInBlank then { r.attention with aliases := true } else r.attention }
  | [] => pure ()

/-- The next character. -/
def next : Reads (Option Char) := do
  leaveInserted
  let r ← get
  match r.rest with
  | [] => pure none
  | c :: rest =>
    set { r with rest, left := r.left - 1 }
    pure (some c)

/-- Puts a character back. -/
def back (c : Option Char) : Reads Unit :=
  match c with
  | none => pure ()
  | some c => modify fun r => { r with rest := c :: r.rest, left := r.left + 1 }

def backAll (text : Text) : Reads Unit :=
  modify fun r => { r with rest := text ++ r.rest, left := r.left + text.length }

def newLine : Reads Unit := modify fun r => { r with line := r.line + 1 }

/-- The next character behind backslashes at the ends of lines. -/
def joined : Nat → Reads (Option Char)
  | 0 => next
  | fuel + 1 => do
    match ← next with
    | some '\\' =>
      match ← next with
      | some '\n' => do
        newLine
        joined fuel
      | c => do
        back c
        pure (some '\\')
    | c => pure c

/-- A bound on how often something is repeated while reading. -/
def bound : Nat := 100000000

/-- The next character, where a backslash joins two lines. -/
def nextJoined : Reads (Option Char) := joined bound

/-- Inserts the text of an alias. -/
def insert (name text : Text) : Reads Unit :=
  modify fun r =>
    { r with
      inserted := ⟨name, r.left, text.getLast?.any fun c => c == ' ' || c == '\t'⟩ :: r.inserted
      rest := text ++ r.rest
      left := r.left + text.length }

/-- The text of an alias that is not being read. -/
def alias? (name : Text) : Reads (Option Text) := do
  let r ← get
  pure (if r.inserted.any (·.name == name) then none else r.aliases.lookup name)

/-- Reads other text with a reader, and goes on in the old text. -/
def within {α : Type} (text : Text) (reader : Reads α) : Reads α := do
  let outer ← get
  set { outer with rest := text, left := text.length, line := 1, inserted := [] }
  let a ← reader
  modify fun r =>
    { r with rest := outer.rest, left := outer.left, line := outer.line, inserted := outer.inserted
             isPushedBack := false }
  pure a

end Reads

end JobShell.Script
