import JobShell.Toolbox.CharacterClass

/-!
Lists of characters in brackets.

A list holds characters, ranges, named classes between colons, and single characters between points
or equals signs; a caret at its front makes it hold all others.
-/

namespace JobShell.Toolbox

/-- Why a text is no regular expression. -/
inductive ExpressionFault
  | invalid | collation | className_ | trailingBackslash | backReference | bracket | group
  | interval | intervalContent | range | tooBig | closingGroup
  deriving DecidableEq

namespace Bracket

/-- The parts of a list that have a meaning of their own. -/
inductive Sign
  | character (c : Char)
  | close
  | caret
  | hyphen
  /-- An opening with a point, an equals sign or a colon. -/
  | symbol (delimiter : Char)

/-- The sign at the front of a list, and what follows it. -/
def sign? : Text → Option (Sign × Text)
  | [] => none
  | '[' :: d :: rest =>
    if d == '.' || d == '=' || d == ':' then some (.symbol d, rest)
    else some (.character '[', d :: rest)
  | ']' :: rest => some (.close, rest)
  | '^' :: rest => some (.caret, rest)
  | '-' :: rest => some (.hyphen, rest)
  | c :: rest => some (.character c, rest)

/-- An element of a list. -/
inductive Element
  | single (c : Char)
  | class_ (name : Text)
  /-- A character between points or equals signs; between equals signs it begins no range. -/
  | collating (name : Text) (isEquivalence : Bool)

/-- The name up to a delimiter with a closing bracket, and what follows them. -/
def name? (delimiter : Char) (read : Text) : Text → Except ExpressionFault (Text × Text)
  | [] => .error .bracket
  | c :: rest =>
    match rest with
    | [] => .error .bracket
    | d :: behind =>
      if c == delimiter && d == ']' then .ok (read.reverse, behind)
      else if 32 ≤ read.length then .error .bracket
      else name? delimiter (c :: read) rest

/-- A hyphen may stand only first, last or behind a hyphen that makes a range. -/
def element? (admitsHyphen : Bool) (sign : Sign) (rest : Text) :
    Except ExpressionFault (Element × Text) :=
  match sign with
  | .symbol delimiter =>
    (name? delimiter [] rest).map fun (name, behind) =>
      (if delimiter == ':' then .class_ name else .collating name (delimiter == '='), behind)
  | .hyphen =>
    if admitsHyphen || rest.head? == some ']' then .ok (.single '-', rest) else .error .range
  | .character c => .ok (.single c, rest)
  | .close => .ok (.single ']', rest)
  | .caret => .ok (.single '^', rest)

/-- The character that an end of a range is. -/
def Element.bound? : Element → Except ExpressionFault Char
  | .single c => .ok c
  | .collating [c] false => .ok c
  | .collating _ false => .error .collation
  | .class_ _ | .collating _ true => .error .range

/-- The members that an element stands for. -/
def Element.members (ignoresCase : Bool) : Element → Except ExpressionFault (Char → Bool)
  | .single c => .ok (· == c)
  | .collating [c] _ => .ok (· == c)
  | .collating _ _ => .error .collation
  | .class_ name =>
    let name := if ignoresCase && (name == "upper".toList || name == "lower".toList) then
      "alpha".toList else name
    match CharacterClass.named? name with
    | some holds => .ok holds
    | none => .error .className_

/-- Whether a range follows an element. -/
def Element.mayRange : Element → Bool
  | .single _ | .collating _ false => true
  | .class_ _ | .collating _ true => false

/-- The members of a list from an element on, and what follows the list; the fuel bounds the
elements. -/
def members (ignoresCase : Bool) : Nat → Bool → Sign → Text → (Char → Bool) →
    Except ExpressionFault ((Char → Bool) × Text)
  | 0, _, _, _, _ => .error .bracket
  | fuel + 1, isFirst, sign, rest, found => do
    let (element, rest) ← element? isFirst sign rest
    let goOn := fun (holds : Char → Bool) (rest : Text) =>
      let found := fun (c : Char) => found c || holds c
      match sign? rest with
      | none => .error .bracket
      | some (.close, behind) => .ok (found, behind)
      | some (sign, behind) => members ignoresCase fuel false sign behind found
    match sign? rest with
    | some (.hyphen, behind) =>
      match element.mayRange, sign? behind with
      | false, _ => goOn (← element.members ignoresCase) rest
      | true, none => .error .bracket
      | true, some (.close, after) =>
        let holds ← element.members ignoresCase
        .ok (fun c => found c || holds c || c == '-', after)
      | true, some (sign, behind) =>
        let (last, rest) ← element? true sign behind
        let (first, last) ← (do pure (← element.bound?, ← last.bound?))
        if last < first then .error .range
        else goOn (fun c => first ≤ c && c ≤ last) rest
    | _ => goOn (← element.members ignoresCase) rest

/-- A list whose brackets were meant to be those of a class. -/
def isConfusing (content : Text) : Bool :=
  1 < content.length && content.head? == some ':' && content.getLast? == some ':' &&
    content.any (· != ':') && content.all fun c => c != '-' && c != '['

/-- A list that has been read. -/
structure Listed where
  isMember : Char → Bool
  isConfusing : Bool
  /-- What follows the list. -/
  rest : Text

/-- The list behind an opening bracket. -/
def read (ignoresCase : Bool) (text : Text) : Except ExpressionFault Listed := do
  let isInverted := text.head? == some '^'
  let text := if isInverted then text.drop 1 else text
  match sign? text with
  | none => .error .invalid
  | some (sign, rest) =>
    let (holds, rest) ← members ignoresCase (text.length + 1) true sign rest fun _ => false
    let either := fun (c : Char) =>
      holds c || (ignoresCase && (holds c.toLower || holds c.toUpper))
    .ok
      { isMember := fun c => either c != isInverted
        isConfusing := isConfusing (text.take (text.length - rest.length - 1))
        rest }

end Bracket

end JobShell.Toolbox
