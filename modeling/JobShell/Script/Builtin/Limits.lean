import JobShell.Script.Builtin.Reply

/-!
What processes are allowed: the permissions of new files, and how much of everything.
-/

namespace JobShell.Script.Limits

open Machine Toolbox

/-! ### Permissions -/

/-- The letters of permissions with their bits. -/
def bits : List (Char × Nat) := [('r', 4), ('w', 2), ('x', 1)]

/-- The classes of users with the place of their bits. -/
def classes : List (Char × Nat) := [('u', 64), ('g', 8), ('o', 1)]

/-- All nine permissions. -/
def all : Nat := 0o777

/-- Permissions as letters for each class. -/
def symbolic (allowed : Nat) : Text :=
  List.intercalate [','] (classes.map fun (name, place) =>
    name :: '=' :: (bits.filter fun b => allowed / place &&& b.2 != 0).map (·.1))

/-- Permissions behind an operator, for one class: letters, or the letter of a class that they are
copied from. -/
def named? (allowed : Nat) (letters : Text) : Option Nat :=
  match letters with
  | [c] =>
    match classes.lookup c, bits.lookup c with
    | some place, _ => some (allowed / place &&& 7)
    | _, some bit => some bit
    | _, _ => if c == 'X' || c == 's' then some (if c == 'X' then 1 else 0) else none
  | letters =>
    letters.foldl (fun sum c => match sum, bits.lookup c with
      | some n, some bit => some (n ||| bit)
      | _, _ => none) (some 0)

/-- Applies operators with their letters to the permissions of classes. -/
def operate (places : List Nat) : Nat → Text → Nat → Option Nat
  | 0, _, _ => none
  | _ + 1, [], allowed => some allowed
  | fuel + 1, operator :: rest, allowed =>
    let letters := rest.takeWhile fun c => c != '+' && c != '-' && c != '='
    match named? allowed letters with
    | none => none
    | some n =>
      let given := places.foldl (fun sum place => sum ||| n * place) 0
      let reach := places.foldl (fun sum place => sum ||| 7 * place) 0
      let changed := match operator with
        | '+' => some (allowed ||| given)
        | '-' => some (allowed &&& (all - given))
        | '=' => some ((allowed &&& (all - reach)) ||| given)
        | _ => none
      changed.bind (operate places fuel (rest.drop letters.length))

/-- Applies a change to the permissions of some classes. -/
def change? (allowed : Nat) (clause : Text) : Option Nat :=
  let who := clause.takeWhile fun c => "ugoa".toList.contains c
  let places := if who.isEmpty || who.contains 'a' then classes.map (·.2)
    else who.filterMap fun c => classes.lookup c
  let behind := clause.drop who.length
  if behind.isEmpty then none else operate places (behind.length + 1) behind allowed

/-- The permissions after changes in turn. -/
def changed? (allowed : Nat) (clauses : List Text) : Option Nat :=
  clauses.foldl (fun allowed clause => allowed.bind (change? · clause)) (some allowed)

/-- The permissions that new files go without, in four octal digits. -/
def octal (mask : Nat) : Text :=
  let digits := Nat.toDigits 8 mask
  List.replicate (4 - digits.length) '0' ++ digits

/-- Shows or sets the permissions that new files go without. -/
def umask (arguments : List Text) : Acts Reply := do
  let flags ← Acts.flags [('S', false)] arguments
  let mask ← Acts.ask (.setMask 0)
  let _ ← Acts.ask (.setMask mask)
  match flags.operands with
  | [] =>
    pure { output := Reply.line (if flags.has 'S' then symbolic (all - mask) else octal mask) }
  | word :: _ =>
    if word.head?.any Char.isDigit then
      if word.all Text.isOctal then do
        let _ ← Acts.ask (.setMask (Text.valueOf 8 word % (all + 1)))
        pure {}
      else Acts.illegalNumber word
    else match changed? (all - mask) (word.splitOn ',') with
      | some allowed => do
        let _ ← Acts.ask (.setMask (all - allowed))
        pure {}
      | none => Acts.fail ("Illegal mode: ".toList ++ word)

/-! ### Amounts -/

/-- A limit: its letter, what it limits, and its value unless there is none. -/
structure Limit where
  letter : Char
  name : String
  value : Option Nat := none

def limits : List Limit :=
  [⟨'t', "time(seconds)", none⟩, ⟨'f', "file(blocks)", none⟩, ⟨'d', "data(kbytes)", none⟩,
   ⟨'s', "stack(kbytes)", some 8192⟩, ⟨'c', "coredump(blocks)", some 0⟩,
   ⟨'m', "memory(kbytes)", none⟩, ⟨'l', "locked memory(kbytes)", some 8192⟩,
   ⟨'p', "process", none⟩, ⟨'n', "nofiles", some 1048576⟩, ⟨'v', "vmemory(kbytes)", none⟩,
   ⟨'w', "locks", none⟩, ⟨'r', "rtprio", some 0⟩]

def Limit.text (limit : Limit) : Text :=
  match limit.value with
  | some n => Text.decimal n
  | none => "unlimited".toList

/-- The width of the names in a list of limits. -/
def nameWidth : Nat := 20

def known : Flags.Known := ('a', false) :: ('H', false) :: ('S', false) ::
  limits.map fun (limit : Limit) => (limit.letter, false)

/-- Shows limits; a new limit is accepted if it is not beyond the old one. -/
def ulimit (arguments : List Text) : Acts Reply := do
  let flags ← Acts.flags known arguments
  let chosen := (flags.given.filterMap fun g =>
    limits.find? fun (limit : Limit) => limit.letter == g.1).getLast?
  let limit := chosen.getD ⟨'f', "file(blocks)", none⟩
  match flags.operands with
  | _ :: _ :: _ => Acts.failWith "too many arguments"
  | [word] =>
    if flags.has 'a' then Acts.failWith "too many arguments"
    else if word = "unlimited".toList then
      if limit.value.isNone then pure {}
      else Acts.failWith "error setting limit (Operation not permitted)"
    else match Text.number? word with
      | none => Acts.failWith "bad number"
      | some n =>
        if limit.value.any (· < n) then
          Acts.failWith "error setting limit (Operation not permitted)"
        else pure {}
  | [] =>
    if flags.has 'a' then
      pure { output := limits.flatMap fun (limit : Limit) =>
        let blanks := List.replicate (nameWidth - limit.name.length) ' '
        Reply.line (limit.name.toList ++ blanks ++ ' ' :: limit.text) }
    else pure { output := Reply.line limit.text }

/-- The time that the shell and its children have taken, which is next to nothing. -/
def times : Reply :=
  let line := Reply.line "0m0.000000s 0m0.000000s".toList
  { output := line ++ line }

end JobShell.Script.Limits
