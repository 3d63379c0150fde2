import JobShell.Text.Alphanumeric

/-!
Regular expressions for the values of fields.

A filter may ask that a field's value match a regular expression.  No record carries such a value,
so all that shows is whether the expression is well formed: `ValuePattern.isWellFormed` reads one
from left to right and keeps the groups and classes that are open.
-/

namespace JobShell.Log.ValuePattern

/-- How a stretch of an expression is read; a group keeps its flags to itself. -/
structure Flags where
  /-- Classes and borders go by characters, not by bytes. -/
  unicode : Bool := true
  /-- White space and comments do not count. -/
  spaced : Bool := false

/-- An expression as far as it has been read. -/
structure Reading where
  flags : Flags := {}
  /-- What has just been read can be repeated. -/
  hasOperand : Bool := false
  /-- The flags around each open group, innermost first. -/
  groups : List Flags := []
  names : List (List Char) := []

/-- What an escape stands for. -/
inductive Escape
  | literal (codePoint : Nat)
  | class_ (isNegated : Bool)
  | property
  | edge
  | wordEdge
  deriving DecidableEq

/-- Marks that have a meaning of their own. -/
def marks : List Char := "\\.+*?()|[]\x7b\x7d^$#&-~".toList

/-- Escapes of characters that do not show. -/
def controls : List (Char × Nat) :=
  [('a', 0x07), ('f', 0x0c), ('t', 0x09), ('n', 0x0a), ('r', 0x0d), ('v', 0x0b)]

/-- How many hexadecimal digits each of three escapes takes. -/
def digitCounts : List (Char × Nat) := [('x', 2), ('u', 4), ('U', 8)]

/-- Categories of one letter. -/
def categories : List Char := "clmnpszCLMNPSZ".toList

def hexValue? (c : Char) : Option Nat :=
  if c.isDigit then some (c.toNat - '0'.toNat)
  else if 'a' ≤ c ∧ c ≤ 'f' then some (c.toNat - 'a'.toNat + 10)
  else if 'A' ≤ c ∧ c ≤ 'F' then some (c.toNat - 'A'.toNat + 10)
  else none

/-- The code point that `n` hexadecimal digits spell. -/
def codePoint? (n : Nat) (cs : List Char) : Option Nat :=
  if cs.length < n then none
  else
    match (cs.take n).mapM hexValue? with
    | none => none
    | some digits =>
      let value := digits.foldl (fun v d => 16 * v + d) 0
      if value.isValidChar then some value else none

/-- What the text after a backslash stands for, and how many of its characters belong to it. -/
def escape? : List Char → Option (Escape × Nat)
  | [] => none
  | c :: cs =>
    if marks.contains c then some (.literal c.toNat, 1)
    else if "dsw".toList.contains c then some (.class_ false, 1)
    else if "DSW".toList.contains c then some (.class_ true, 1)
    else if c == 'p' || c == 'P' then
      if (cs.head?.any categories.contains) then some (.property, 2) else none
    else if c == 'A' || c == 'z' then some (.edge, 1)
    else if "bB<>".toList.contains c then some (.wordEdge, 1)
    else
      match digitCounts.lookup c, controls.lookup c with
      | some n, _ => (codePoint? n cs).map (.literal ·, n + 1)
      | none, some value => some (.literal value, 1)
      | none, none =>
        if c.toNat < 128 && !c.isAlphanum then some (.literal c.toNat, 1) else none

/-- White space and comments at the front, when they do not count, are left out. -/
def skipSpace (flags : Flags) : List Char → List Char
  | [] => []
  | c :: cs =>
    if !flags.spaced then c :: cs
    else if c.isWhitespace then skipSpace flags cs
    else if c == '#' then skipComment cs
    else c :: cs
where
  /-- The rest of a comment, which ends with its line. -/
  skipComment : List Char → List Char
    | [] => []
    | '\n' :: cs => skipSpace flags cs
    | _ :: cs => skipComment cs

/-! ## Classes -/

def classNames : List String :=
  ["alnum", "alpha", "ascii", "blank", "cntrl", "digit", "graph", "lower", "print", "punct",
   "space", "upper", "word", "xdigit"]

/-- What follows a named class such as that of the digits, which begins after its bracket. -/
def afterNamedClass? (cs : List Char) : Option (List Char) :=
  match cs with
  | ':' :: rest =>
    let plain := match rest with
      | '^' :: more => more
      | _ => rest
    let name := plain.takeWhile (· != ':')
    match plain.drop name.length with
    | ':' :: ']' :: more => if classNames.contains (String.ofList name) then some more else none
    | _ => none
  | _ => none

/-- The end of a class's opening: a caret, hyphens and a closing bracket count for themselves when
they come first. -/
def afterOpening? (flags : Flags) (cs : List Char) : Option (List Char) :=
  let cs := skipSpace flags cs
  let isNegated := cs.head? == some '^'
  let cs := if isNegated then skipSpace flags (cs.drop 1) else cs
  if isNegated && !flags.unicode then none
  else
    let hyphens := cs.takeWhile (· == '-')
    let rest := skipSpace flags (cs.drop hyphens.length)
    if hyphens.isEmpty && rest.head? == some ']' then some (rest.drop 1) else some rest

/-- One member of a class: its code point if it is a single character, and what follows. -/
def member? (flags : Flags) : List Char → Option (Option Nat × List Char)
  | [] => none
  | '\\' :: cs =>
    match escape? cs with
    | some (.literal n, length) =>
      if !flags.unicode && 0x80 ≤ n then none else some (some n, cs.drop length)
    | some (.class_ isNegated, length) =>
      if !flags.unicode && isNegated then none else some (none, cs.drop length)
    | some (.property, length) => if flags.unicode then some (none, cs.drop length) else none
    | _ => none
  | c :: cs => if !flags.unicode && 0x80 ≤ c.toNat then none else some (some c.toNat, cs)

/-- A member or a range, and what follows. -/
def item? (flags : Flags) (cs : List Char) : Option (List Char) :=
  match member? flags cs with
  | none => none
  | some (first, rest) =>
    match skipSpace flags rest with
    | '-' :: more =>
      let after := skipSpace flags more
      if after.head? == some ']' || after.head? == some '-' then some ('-' :: more)
      else
        match first, member? flags after with
        | some low, some (some high, rest) => if low ≤ high then some rest else none
        | _, _ => none
    | rest => some rest

/-- What follows a class of which `depth` brackets are open; the fuel bounds the members read. -/
def afterClass? (flags : Flags) : Nat → Nat → List Char → Option (List Char)
  | 0, _, _ => none
  | fuel + 1, depth, cs =>
    match skipSpace flags cs with
    | [] => none
    | '[' :: rest =>
      match afterNamedClass? rest with
      | some more => afterClass? flags fuel depth more
      | none => (afterOpening? flags rest).bind (afterClass? flags fuel (depth + 1))
    | ']' :: rest => if depth ≤ 1 then some rest else afterClass? flags fuel (depth - 1) rest
    | '&' :: '&' :: rest | '-' :: '-' :: rest | '~' :: '~' :: rest =>
      afterClass? flags fuel depth rest
    | c :: rest => (item? flags (c :: rest)).bind (afterClass? flags fuel depth)

/-! ## Groups -/

/-- The flags that a list of flag letters leaves; a hyphen turns off what follows it. -/
def flagged? (flags : Flags) (letters : List Char) : Option Flags :=
  let (on, off) := (letters.takeWhile (· != '-'), (letters.dropWhile (· != '-')).drop 1)
  let named := on ++ off
  if letters.contains '-' && off.isEmpty then none
  else if named.any (fun c => !"imsUuRx".toList.contains c) || !named.Nodup then none
  else
    let setting := fun (c : Char) (was : Bool) =>
      if on.contains c then true else if off.contains c then false else was
    some ⟨setting 'u' flags.unicode, setting 'x' flags.spaced⟩

/-- The name of a group begins with a letter or an underscore. -/
def isName : List Char → Bool
  | [] => false
  | c :: cs =>
    (c == '_' || (Text.isAlphanumeric c && !c.isDigit)) &&
      cs.all fun c => Text.isAlphanumeric c || "_.[]".toList.contains c

/-- The reading behind a group's opening parenthesis, and what follows its head. -/
def opened? (reading : Reading) (cs : List Char) : Option (Reading × List Char) :=
  let inside : Reading :=
    { reading with hasOperand := false, groups := reading.flags :: reading.groups }
  let named := fun (cs : List Char) =>
    let name := cs.takeWhile (· != '>')
    match cs.drop name.length with
    | _ :: rest =>
      if isName name && !reading.names.contains name then
        some ({ inside with names := name :: inside.names }, rest)
      else none
    | [] => none
  match skipSpace reading.flags cs with
  | '?' :: '<' :: '=' :: _ | '?' :: '<' :: '!' :: _ => none
  | '?' :: 'P' :: '<' :: rest | '?' :: '<' :: rest => named rest
  | '?' :: rest =>
    let letters := rest.takeWhile fun c => c != ':' && c != ')'
    match rest.drop letters.length, flagged? reading.flags letters with
    | ':' :: more, some flags => some ({ inside with flags }, more)
    | ')' :: more, some flags =>
      if letters.isEmpty then none else some ({ reading with flags, hasOperand := false }, more)
    | _, _ => none
  | rest => some (inside, rest)

/-! ## Expressions -/

/-- An escape outside a class. -/
def escaped? (reading : Reading) (cs : List Char) : Option (Reading × List Char) :=
  let go := fun (length : Nat) => some ({ reading with hasOperand := true }, cs.drop length)
  match escape? cs with
  | none => none
  | some (.literal n, length) =>
    if !reading.flags.unicode && 0x80 ≤ n then none else go length
  | some (.class_ isNegated, length) =>
    if !reading.flags.unicode && isNegated then none else go length
  | some (.property, length) => if reading.flags.unicode then go length else none
  | some (.edge, length) => go length
  | some (.wordEdge, length) => if reading.flags.unicode then none else go length

/-- One further part of an expression. -/
def part? (reading : Reading) (c : Char) (cs : List Char) : Option (Reading × List Char) :=
  match c with
  | '*' | '+' | '?' =>
    let rest := if cs.head? == some '?' then cs.drop 1 else cs
    if reading.hasOperand then some (reading, rest) else none
  | '\x7b' => none
  | '(' => opened? reading cs
  | ')' =>
    match reading.groups with
    | [] => none
    | outer :: groups => some ({ reading with flags := outer, groups, hasOperand := true }, cs)
  | '|' => some ({ reading with hasOperand := false }, cs)
  | '[' =>
    ((afterOpening? reading.flags cs).bind
      (afterClass? reading.flags (cs.length + 1) 1)).map ({ reading with hasOperand := true }, ·)
  | '\\' => escaped? reading cs
  | '.' => if reading.flags.unicode then some ({ reading with hasOperand := true }, cs) else none
  | _ => some ({ reading with hasOperand := true }, cs)

/-- The parts of an expression in turn; each takes a character at least, so its length is fuel
enough. -/
def reads : Nat → Reading → List Char → Bool
  | 0, _, _ => false
  | fuel + 1, reading, cs =>
    match skipSpace reading.flags cs with
    | [] => reading.groups.isEmpty
    | c :: rest =>
      match part? reading c rest with
      | none => false
      | some (reading, rest) => reads fuel reading rest

def isWellFormed (cs : List Char) : Bool := reads (cs.length + 1) {} cs

end JobShell.Log.ValuePattern
