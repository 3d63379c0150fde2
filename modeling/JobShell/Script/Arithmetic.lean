import JobShell.Toolbox.Number

/-!
Arithmetic in the system shell.

Numbers have sixty-four bits.  An expression is read and calculated in one go: each operator takes
what stands to its right as far as its precedence reaches.  In parts whose value does not matter
nothing is calculated and no variable is touched.
-/

namespace JobShell.Script.Arithmetic

open Toolbox

/-- Brings a number to sixty-four bits. -/
def wrap (n : Int) : Int := Int.bmod n 18446744073709551616

/-- Operators between two values, in the order of their precedence. -/
inductive Operator
  | times | divided | rest | plus | minus | shiftLeft | shiftRight
  | less | lessEqual | greater | greaterEqual | equal | unequal | bitAnd | bitXor | bitOr
  deriving DecidableEq, Repr, Inhabited

namespace Operator

/-- The operators with a lower number hold more closely. -/
def precedence : Operator → Nat
  | times | divided | rest => 0
  | plus | minus => 1
  | shiftLeft | shiftRight => 2
  | less | lessEqual | greater | greaterEqual => 3
  | equal | unequal => 4
  | bitAnd => 5
  | bitXor => 6
  | bitOr => 7

def lowest : Nat := 8

def ofBool (b : Bool) : Int := if b then 1 else 0

def bits (n : Int) : BitVec 64 := BitVec.ofInt 64 n

/-- The value of an operation, unless it divides by zero. -/
def result? (op : Operator) (a b : Int) : Option Int :=
  let places := (b % 64).toNat
  match op with
  | times => some (wrap (a * b))
  | divided => if b = 0 then none else some (wrap (Int.tdiv a b))
  | rest => if b = 0 then none else some (wrap (Int.tmod a b))
  | plus => some (wrap (a + b))
  | minus => some (wrap (a - b))
  | shiftLeft => some ((bits a <<< places).toInt)
  | shiftRight => some ((BitVec.sshiftRight (bits a) places).toInt)
  | less => some (ofBool (a < b))
  | lessEqual => some (ofBool (a ≤ b))
  | greater => some (ofBool (a > b))
  | greaterEqual => some (ofBool (a ≥ b))
  | equal => some (ofBool (a == b))
  | unequal => some (ofBool (a != b))
  | bitAnd => some ((bits a &&& bits b).toInt)
  | bitXor => some ((bits a ^^^ bits b).toInt)
  | bitOr => some ((bits a ||| bits b).toInt)

end Operator

inductive Sign
  | ending | bad | number (n : Int) | named (name : Text)
  | infix_ (op : Operator)
  /-- An assignment, perhaps of the value of an operation. -/
  | assign (op : Option Operator)
  | and_ | or_ | not_ | complement | open_ | close | question | colon
  deriving DecidableEq, Repr, Inhabited

/-- Why an expression has no value. -/
inductive Trouble
  /-- The expression is wrong. -/
  | expression (text : String)
  /-- A variable holds no number. -/
  | number (text : Text)
  | fixed (name : Text)
  /-- A quotient is too great, which the machine does not survive. -/
  | overflow

structure Calculation where
  rest : Text
  /-- The sign that was read last. -/
  last : Sign := .ending
  /-- Variables that have been assigned to, the latest first. -/
  assigned : List (Text × Int) := []

/-- The variables around an expression. -/
structure Around where
  valueOf? : Text → Option Text
  isFixed : Text → Bool

abbrev Calculates (α : Type) := ReaderT Around (StateT Calculation (Except Trouble)) α

/-- Signs that may be followed by an equals sign, which makes an assignment of them. -/
def orAssign (op : Operator) (rest : Text) : Sign × Text :=
  match rest with
  | '=' :: rest => (.assign (some op), rest)
  | rest => (.infix_ op, rest)

/-- A number at the front of a text, as near as it can be held, and what is behind it. -/
def numberAt (text : Text) : Int × Text :=
  let s := Scanned.ofFront true text
  (s.signed.1, s.rest)

/-- The sign at the front of an expression. -/
def signAt (text : Text) : Sign × Text :=
  let text := text.dropWhile fun c => c == ' ' || c == '\t' || c == '\n'
  match text with
  | [] => (.ending, [])
  | '=' :: '=' :: rest => (.infix_ .equal, rest)
  | '=' :: rest => (.assign none, rest)
  | '>' :: '=' :: rest => (.infix_ .greaterEqual, rest)
  | '>' :: '>' :: rest => orAssign .shiftRight rest
  | '>' :: rest => (.infix_ .greater, rest)
  | '<' :: '=' :: rest => (.infix_ .lessEqual, rest)
  | '<' :: '<' :: rest => orAssign .shiftLeft rest
  | '<' :: rest => (.infix_ .less, rest)
  | '|' :: '|' :: rest => (.or_, rest)
  | '|' :: rest => orAssign .bitOr rest
  | '&' :: '&' :: rest => (.and_, rest)
  | '&' :: rest => orAssign .bitAnd rest
  | '!' :: '=' :: rest => (.infix_ .unequal, rest)
  | '!' :: rest => (.not_, rest)
  | '(' :: rest => (.open_, rest)
  | ')' :: rest => (.close, rest)
  | '*' :: rest => orAssign .times rest
  | '/' :: rest => orAssign .divided rest
  | '%' :: rest => orAssign .rest rest
  | '+' :: rest => orAssign .plus rest
  | '-' :: rest => orAssign .minus rest
  | '~' :: rest => (.complement, rest)
  | '^' :: rest => orAssign .bitXor rest
  | '?' :: rest => (.question, rest)
  | ':' :: rest => (.colon, rest)
  | c :: rest =>
    if c.isDigit then
      let (n, rest) := numberAt text
      (.number n, rest)
    else if Text.isNameStart c then
      let name := c :: rest.takeWhile Text.isNameChar
      (.named name, text.drop name.length)
    else (.bad, text)

/-- Reads the next sign. -/
def sign : Calculates Sign := do
  let c ← get
  let (sign, rest) := signAt c.rest
  set { c with rest }
  pure sign

def setLast (last : Sign) : Calculates Unit := modify fun c => { c with last }

def fail {α : Type} (text : String) : Calculates α := throw (.expression text)

/-- The number that a value of a variable is. -/
def valueNumber? (text : Text) : Option Int :=
  let s := Scanned.ofFront true text
  let (n, isCut) := s.signed
  let behind := if s.rest.length = text.length then text else s.rest
  if isCut || !behind.all Toolbox.Text.isBlank then none else some n

/-- The number that a variable holds; one that is not set holds zero. -/
def lookUp (name : Text) : Calculates Int := do
  match (← get).assigned.lookup name with
  | some n => pure n
  | none =>
    let text := ((← read).valueOf? name).getD []
    match valueNumber? text with
    | some n => pure n
    | none => throw (.number text)

def store (name : Text) (n : Int) : Calculates Int := do
  if (← read).isFixed name then throw (.fixed name)
  modify fun c => { c with assigned := (name, n) :: c.assigned }
  pure n

/-- The least of the integers, whose negative is none of them. -/
def least : Int := -9223372036854775808

def apply (op : Operator) (a b : Int) : Calculates Int :=
  if (op = .divided || op = .rest) && a = least && b = -1 then throw .overflow
  else
    match op.result? a b with
    | some n => pure n
    | none => fail "division by zero"

/-- The parts of an expression that stand inside others. -/
structure Inside where
  /-- An expression that starts with a sign. -/
  expression : Sign → Bool → Calculates Int
  /-- A value that starts with a sign which another follows. -/
  primary : Sign → Sign → Bool → Calculates Int
  /-- What follows an operator, with the precedence at which it ends. -/
  operand : Int → Operator → Nat → Bool → Calculates Int
  conjunction : Sign → Sign → Bool → Calculates Int
  disjunction : Sign → Sign → Bool → Calculates Int
  conditional : Sign → Sign → Bool → Calculates Int

namespace Inside

variable (i : Inside)

def primaryStep (first next : Sign) (idle : Bool) : Calculates Int := do
  match first with
  | .open_ =>
    let n ← i.expression next idle
    if (← get).last != .close then fail "expecting ')'"
    setLast (← sign)
    pure n
  | .number n => do
    setLast next
    pure n
  | .named name => do
    setLast next
    if idle then pure 0 else lookUp name
  | .infix_ .plus => do i.primary next (← sign) idle
  | .infix_ .minus => do pure (wrap (-(← i.primary next (← sign) idle)))
  | .not_ => do pure (Operator.ofBool ((← i.primary next (← sign) idle) == 0))
  | .complement => do pure (-(← i.primary next (← sign) idle) - 1)
  | _ => fail "expecting primary"

def operandStep (a : Int) (op : Operator) (precedence : Nat) (idle : Bool) : Calculates Int := do
  let first ← sign
  let next ← sign
  let b ← i.primary first next idle
  let b ← match (← get).last with
    | .infix_ closer =>
      if closer.precedence < op.precedence then i.operand b closer op.precedence idle else pure b
    | _ => pure b
  let a ← if idle then pure b else apply op a b
  match (← get).last with
  | .infix_ later =>
    if later.precedence < precedence then i.operand a later precedence idle else pure a
  | _ => pure a

def operation (first next : Sign) (idle : Bool) : Calculates Int := do
  let a ← i.primary first next idle
  match (← get).last with
  | .infix_ op => i.operand a op Operator.lowest idle
  | _ => pure a

def conjunctionStep (first next : Sign) (idle : Bool) : Calculates Int := do
  let a ← i.operation first next idle
  if (← get).last != .and_ then pure a
  else
    let first ← sign
    let next ← sign
    let b ← i.conjunction first next (idle || a == 0)
    pure (Operator.ofBool (a != 0 && b != 0))

def disjunctionStep (first next : Sign) (idle : Bool) : Calculates Int := do
  let a ← i.conjunction first next idle
  if (← get).last != .or_ then pure a
  else
    let first ← sign
    let next ← sign
    let b ← i.disjunction first next (idle || a != 0)
    pure (Operator.ofBool (a != 0 || b != 0))

def conditionalStep (first next : Sign) (idle : Bool) : Calculates Int := do
  let a ← i.disjunction first next idle
  if (← get).last != .question then pure a
  else
    let b ← i.expression (← sign) (idle || a == 0)
    if (← get).last != .colon then fail "expecting ':'"
    let first ← sign
    let next ← sign
    let c ← i.conditional first next (idle || a != 0)
    pure (if a != 0 then b else c)

def expressionStep (first : Sign) (idle : Bool) : Calculates Int := do
  let next ← sign
  match first, next with
  | .named name, .assign op => do
    let n ← i.expression (← sign) idle
    if idle then pure n
    else match op with
      | none => store name n
      | some op => do store name (← apply op (← lookUp name) n)
  | _, _ => i.conditional first next idle

def step : Inside where
  expression := i.expressionStep
  primary := i.primaryStep
  operand := i.operandStep
  conjunction := i.conjunctionStep
  disjunction := i.disjunctionStep
  conditional := i.conditionalStep

/-- Expressions whose parts stand in each other to a depth. -/
def toDepth : Nat → Inside
  | 0 =>
    ⟨fun _ _ => fail "too deep", fun _ _ _ => fail "too deep", fun _ _ _ _ => fail "too deep",
      fun _ _ _ => fail "too deep", fun _ _ _ => fail "too deep", fun _ _ _ => fail "too deep"⟩
  | depth + 1 => (toDepth depth).step

end Inside

/-- Calculates an expression; gives also the variables that it assigns to, the first first. -/
def evaluate (around : Around) (text : Text) : Except Trouble (Int × List (Text × Int)) :=
  let calculation : Calculates Int := do
    let n ← (Inside.toDepth (4 * text.length + 8)).expression (← sign) false
    if (← get).last != .ending then fail "expecting EOF"
    pure n
  match (calculation around).run { rest := text } with
  | .ok (n, c) => .ok (n, c.assigned.reverse)
  | .error trouble => .error trouble

end JobShell.Script.Arithmetic
