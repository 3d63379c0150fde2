import JobShell.Script.Builtin.Reply
import JobShell.Toolbox.FileTest

/-!
The shell's own form of conditions.

A word is an operator only where its neighbours leave room for its operands.  All parts of a
condition are looked at, also where the answer is already known.
-/

namespace JobShell.Script.Condition

open Toolbox

/-- What a word is for the reader of a condition. -/
inductive Sign
  | ending | operand
  | unary (letter : Char)
  | binary (operator : String)
  | not_ | and_ | or_ | open_ | close
  deriving DecidableEq

def unaryLetters : Text := "rwxefdcbpugkstznhOGLS".toList

def binaryOperators : List String :=
  ["=", "!=", "<", ">", "-eq", "-ne", "-ge", "-gt", "-le", "-lt", "-nt", "-ot", "-ef"]

/-- The operator that a word may be. -/
def operator? (word : Text) : Option Sign :=
  match word with
  | ['!'] => some .not_
  | ['('] => some .open_
  | [')'] => some .close
  | ['-', 'a'] => some .and_
  | ['-', 'o'] => some .or_
  | word =>
    match binaryOperators.find? (·.toList == word) with
    | some operator => some (.binary operator)
    | none =>
      match word with
      | ['-', c] => if unaryLetters.contains c then some (.unary c) else none
      | _ => none

def isBinary (word : Text) : Bool :=
  match operator? word with
  | some (.binary _) => true
  | _ => false

/-- Whether a word that could be an operator with one operand is one, by the words behind it. -/
def hasOperand : List Text → Bool
  | [] => false
  | [_] => true
  | next :: _ => !isBinary next

/-- What the first word is. -/
def signAt : List Text → Sign
  | [] => .ending
  | word :: rest =>
    match operator? word with
    | some (.unary c) => if hasOperand rest then .unary c else .operand
    | some .open_ => if rest.isEmpty then .operand else .open_
    | some sign => sign
    | none => .operand

/-- A computation over the words from the present one on. -/
abbrev Reading := StateT (List Text) Acts

/-- A complaint about a word, unless it is empty. -/
def refuse {α : Type} (word : Text) (text : String) : Reading α :=
  (Acts.fail (if word.isEmpty then text.toList else word ++ ": ".toList ++ text.toList) : Acts α)

/-- What the word behind the present one is. -/
def nextSign : Reading Sign := do pure (signAt ((← get).drop 1))

def advance (count : Nat) : Reading Unit := modify (·.drop count)

def ask (doing : Machine.Doing Bool) : Reading Bool := (Acts.lift doing : Acts Bool)

def compare (f : Int → Int → Bool) (left right : Text) : Reading Bool := do
  let a ← (Acts.integer left : Acts Int)
  let b ← (Acts.integer right : Acts Int)
  pure (f a b)

/-- Whether the left file is newer, where both are there. -/
def isNewer (left right : Text) : Reading Bool := do
  let a ← ask (FileTest.isNewer left right)
  let b ← ask do pure (← FileTest.facts? right).isSome
  pure (a && b)

def binary (operator : String) (left right : Text) : Reading Bool :=
  match operator with
  | "=" => pure (left == right)
  | "!=" => pure (left != right)
  | "<" => pure (String.ofList left < String.ofList right)
  | ">" => pure (String.ofList right < String.ofList left)
  | "-eq" => compare (· == ·) left right
  | "-ne" => compare (· != ·) left right
  | "-ge" => compare (fun a b => a ≥ b) left right
  | "-gt" => compare (fun a b => a > b) left right
  | "-le" => compare (fun a b => a ≤ b) left right
  | "-lt" => compare (fun a b => a < b) left right
  | "-nt" => isNewer left right
  | "-ot" => isNewer right left
  | _ => ask (FileTest.isSame left right)

def unary (letter : Char) (operand : Text) : Reading Bool :=
  match letter with
  | 'z' => pure operand.isEmpty
  | 'n' => pure !operand.isEmpty
  | 't' => do
    let _ ← (Acts.integer operand : Acts Int)
    pure false
  | letter => ask (FileTest.ofFile letter operand)

/-- Parts of a condition. -/
inductive Part
  | alternatives | conjunction | negation | term

/-- Reads a part whose first word is of a kind; the present word is then its last. -/
def read : Nat → Part → Sign → Reading Bool
  | 0, _, _ => pure false
  | fuel + 1, .alternatives, sign => do
    let a ← read fuel .conjunction sign
    if (← nextSign) = .or_ then do
      advance 2
      let b ← read fuel .alternatives (signAt (← get))
      pure (a || b)
    else pure a
  | fuel + 1, .conjunction, sign => do
    let a ← read fuel .negation sign
    if (← nextSign) = .and_ then do
      advance 2
      let b ← read fuel .conjunction (signAt (← get))
      pure (a && b)
    else pure a
  | fuel + 1, .negation, sign =>
    if sign = .not_ then do
      let next ← nextSign
      if next != .ending then advance 1
      pure !(← read fuel .negation next)
    else read fuel .term sign
  | _ + 1, .term, .ending => pure false
  | fuel + 1, .term, .open_ => do
    advance 1
    let next := signAt (← get)
    if next = .close then pure false
    else do
      let value ← read fuel .alternatives next
      advance 1
      if signAt (← get) != .close then refuse [] "closing paren expected"
      pure value
  | _ + 1, .term, .unary c => do
    advance 1
    match ← get with
    | [] => refuse ['-', c] "argument expected"
    | operand :: _ => unary c operand
  | _ + 1, .term, _ => do
    let left := (← get).head?.getD []
    match ← nextSign with
    | .binary operator => do
      advance 2
      match ← get with
      | [] => refuse operator.toList "argument expected"
      | right :: _ => binary operator left right
    | _ => pure !left.isEmpty

def opening : Text := ['(']
def closing : Text := [')']
def negation : Text := ['!']

/-- Reads all words, of which the first is of a kind. -/
def whole (words : List Text) (sign : Sign) : Acts Bool := do
  let reading : Reading Bool := do
    let value ← read (4 * words.length + 8) .alternatives sign
    match ← get with
    | word :: _ :: _ => refuse word "unexpected operator"
    | _ => pure value
  pure (← reading.run words).1

/-- The answer to a condition.  Of three words the middle one is looked at first; three or four may
stand in parentheses or behind a negation, and a second negation there says no more than one. -/
def answer : Nat → Bool → List Text → Acts Bool
  | 0, _, _ => pure false
  | fuel + 1, negated, words => do
    let count := words.length
    let judged := fun (words : List Text) (sign : Sign) => do
      pure ((← whole words sign) != negated)
    if count = 0 then pure negated
    else if count = 3 && (words[1]?).any isBinary then judged words .operand
    else if count = 3 || count = 4 then
      if words.head? = some opening && words.getLast? = some closing then
        let inside := (words.drop 1).dropLast
        judged inside (signAt inside)
      else if words.head? = some negation then answer fuel true (words.drop 1)
      else judged words (signAt words)
    else judged words (signAt words)

/-- Judges a condition; one between brackets has to end in a bracket. -/
def run (isBracketed : Bool) (arguments : List Text) : Acts Reply := do
  if isBracketed then
    if (arguments.getLast?.bind List.head?) != some ']' then Acts.failWith "missing ]"
    pure (.ofBool (← answer (arguments.length + 1) false arguments.dropLast))
  else pure (.ofBool (← answer (arguments.length + 1) false arguments))

end JobShell.Script.Condition
