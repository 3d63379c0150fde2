import JobShell.Toolbox.FileTest

/-!
Conditions on files, texts and numbers, as their words say them.

Up to four words are read by their number, so that an operator may stand as a plain text; more of
them are alternatives of conjunctions of terms.
-/

namespace JobShell.Toolbox.Condition

open Machine

/-- Why a condition has no answer. -/
inductive Fault
  | notNumber (text : Text)
  | unknownUnary (operator : Text)
  | unknownBinary (operator : Text)
  /-- Lengths of texts are for numbers only. -/
  | noLength (operator : Text)
  /-- The words end where one more is needed. -/
  | missing
  | extra (word : Text)
  | unclosed (found : Option Text)
  | missingBracket

def Fault.message (words : List Text) : Fault → Text
  | notNumber t => "invalid integer ".toList ++ Text.told t
  | unknownUnary t => Text.told t ++ ": unary operator expected".toList
  | unknownBinary t => Text.told t ++ ": binary operator expected".toList
  | noLength t => t ++ " does not accept -l".toList
  | missing => "missing argument after ".toList ++ Text.told (words.getLast?.getD [])
  | extra t => "extra argument ".toList ++ Text.told t
  | unclosed none => "')' expected".toList
  | unclosed (some t) => "')' expected, found ".toList ++ Text.told t
  | missingBracket => "missing ']'".toList

/-- A computation over the words that are left. -/
abbrev Reading := StateT (List Text) (ExceptT Fault Doing)

def fail {α : Type} (fault : Fault) : Reading α := throw fault

def ask (question : Doing Bool) : Reading Bool := fun words next => question fun b =>
  next (.ok (b, words))

/-- Goes on behind the next word; with `needed` there has to be another. -/
def advance (needed : Bool) : Reading Unit := do
  let words ← get
  set (words.drop 1)
  if needed && (words.drop 1).isEmpty then fail .missing

/-- The comparisons of numbers. -/
def comparison? (operator : Text) : Option (Int → Int → Bool) :=
  match String.ofList operator with
  | "-eq" => some fun a b => a == b
  | "-ne" => some fun a b => a != b
  | "-lt" => some fun a b => a < b
  | "-le" => some fun a b => a ≤ b
  | "-gt" => some fun a b => a > b
  | "-ge" => some fun a b => a ≥ b
  | _ => none

def isBinary (operator : Text) : Bool :=
  (comparison? operator).isSome ||
    ["=", "==", "!=", "-nt", "-ot", "-ef"].any fun o => o.toList == operator

/-- A minus sign and one character. -/
def looksUnary : Text → Bool
  | ['-', _] => true
  | _ => false

def number (text : Text) : Reading Int :=
  match integer? text with
  | some n => pure n
  | none => fail (.notNumber text)

def length (text : Text) : Int := text.length

/-- The operator `-l`, which stands for the length of the text behind it. -/
def lengthMark : Text := ['-', 'l']

def apply (left operator right : Text) (leftLength rightLength : Bool) : Reading Bool :=
  match comparison? operator with
  | some compare => do
    let a ← if leftLength then pure (length left) else number left
    let b ← if rightLength then pure (length right) else number right
    pure (compare a b)
  | none =>
    let onFiles := fun (question : Doing Bool) =>
      if leftLength || rightLength then fail (.noLength operator) else ask question
    match String.ofList operator with
    | "-nt" => onFiles (FileTest.isNewer left right)
    | "-ot" => onFiles (FileTest.isNewer right left)
    | "-ef" => onFiles (FileTest.isSame left right)
    | "!=" => pure (left != right)
    | _ => pure (left == right)

/-- A test with two operands at the front. -/
def binary (leftLength : Bool) : Reading Bool := do
  if leftLength then advance false
  match ← get with
  | left :: operator :: right :: rest =>
    match if right = lengthMark then rest else [] with
    | counted :: rest => do
      set rest
      apply left operator counted leftLength true
    | [] => do
      set rest
      apply left operator right leftLength false
  | _ => fail .missing

/-- A test with one operand at the front. -/
def unary : Reading Bool := do
  match ← get with
  | ['-', c] :: rest =>
    if c == 'n' || c == 'z' || c == 't' || FileTest.letters.contains c then
      match rest with
      | [] => fail .missing
      | operand :: rest => do
        set rest
        if c == 'n' then pure !operand.isEmpty
        else if c == 'z' then pure operand.isEmpty
        else if c == 't' then do
          let _ ← number operand
          pure false
        else ask (FileTest.ofFile c operand)
    else fail (.unknownUnary ['-', c])
  | _ => fail .missing

def negation : Text := ['!']
def opening : Text := ['(']
def closing : Text := [')']

/-- One word is true unless it is empty. -/
def ofOne : Reading Bool := do
  let words ← get
  set (words.drop 1)
  pure !(words.head?.getD []).isEmpty

def ofTwo : Reading Bool := do
  match ← get with
  | a :: _ =>
    if a = negation then do
      advance false
      pure !(← ofOne)
    else if looksUnary a then unary
    else fail .missing
  | [] => fail .missing

/-- How many words are looked at together behind an opening parenthesis. -/
def countInside (words : List Text) : Nat :=
  let n := 1 + ((words.drop 1).takeWhile (· != closing)).length
  if 4 < n then words.length else n

/-- Parts of a condition. -/
inductive Part
  | term | conjunction | alternatives
  /-- A condition of so many words. -/
  | counted (words : Nat)

def read : Nat → Part → Reading Bool
  | 0, _ => fail .missing
  | fuel + 1, .alternatives => do
    if (← get).isEmpty then fail .missing
    let a ← read fuel .conjunction
    if (← get).head? = some ['-', 'o'] then
      advance false
      let b ← read fuel .alternatives
      pure (a || b)
    else pure a
  | fuel + 1, .conjunction => do
    let a ← read fuel .term
    if (← get).head? = some ['-', 'a'] then
      advance false
      let b ← read fuel .conjunction
      pure (a && b)
    else pure a
  | fuel + 1, .term => do
    match ← get with
    | [] => fail .missing
    | a :: rest =>
      if a = negation then do
        advance true
        pure !(← read fuel .term)
      else if a = opening then do
        advance true
        let value ← read fuel (.counted (countInside rest))
        match ← get with
        | [] => fail (.unclosed none)
        | c :: rest =>
          if c = closing then
            set rest
            pure value
          else fail (.unclosed (some c))
      else if 3 ≤ rest.length && a = lengthMark && (rest[1]?).any isBinary then binary true
      else if 2 ≤ rest.length && (rest[0]?).any isBinary then binary false
      else if looksUnary a then unary
      else do
        set rest
        pure !a.isEmpty
  | _ + 1, .counted 1 => ofOne
  | _ + 1, .counted 2 => ofTwo
  | fuel + 1, .counted 3 => do
    match ← get with
    | a :: b :: c :: _ =>
      if isBinary b then binary false
      else if a = negation then do
        advance true
        pure !(← ofTwo)
      else if a = opening && c = closing then do
        advance false
        let value ← ofOne
        advance false
        pure value
      else if b = ['-', 'a'] || b = ['-', 'o'] then read fuel .alternatives
      else fail (.unknownBinary b)
    | _ => fail .missing
  | fuel + 1, .counted 4 => do
    match ← get with
    | a :: _ :: _ :: d :: _ =>
      if a = negation then do
        advance true
        pure !(← read fuel (.counted 3))
      else if a = opening && d = closing then do
        advance false
        let value ← ofTwo
        advance false
        pure value
      else read fuel .alternatives
    | _ => fail .missing
  | fuel + 1, .counted _ => read fuel .alternatives

/-- The answer to a condition; there is none without words. -/
def answer (words : List Text) : Reading Bool := do
  if words.isEmpty then pure false
  else
    let value ← read (4 * words.length + 8) (.counted words.length)
    match ← get with
    | [] => pure value
    | word :: _ => fail (.extra word)

/-- Gives the answer as a status. -/
def judged (call : Call) (words : List Text) (reading : Reading Bool) : Doing Nat := do
  match ← (reading.run words).run with
  | .ok (value, _) => pure (if value then 0 else 1)
  | .error fault => do
    complain (call.message (fault.message words))
    pure 2

def run (call : Call) : Doing Nat := judged call call.arguments (answer call.arguments)

/-- The condition between brackets, of which the first is the name of the program. -/
def runBracketed (call : Call) : Doing Nat :=
  if call.arguments.getLast? = some [']'] then
    judged call call.arguments.dropLast (answer call.arguments.dropLast)
  else judged call call.arguments (fail .missingBracket)

end JobShell.Toolbox.Condition
