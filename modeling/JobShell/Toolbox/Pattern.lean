import JobShell.Toolbox.CharacterClass

/-!
Patterns for names.

A pattern is a text in which a star stands for any text, a question mark for any character, and
brackets for one of several; a backslash takes the meaning from the character behind it.  Brackets
that are not closed stand for themselves.
-/

namespace JobShell.Toolbox.Pattern

/-- The place of a character in the order in which ranges are understood. -/
def order (c : Char) : Int := if c.toNat < 128 then c.toNat else (c.toNat : Int) - 256

/-- The named class behind an opening bracket, and what follows it. -/
def class? (pattern : Text) : Option ((Char → Bool) × Text) :=
  CharacterClass.all.findSome? fun (name, holds) =>
    let form := ':' :: name.toList ++ [':', ']']
    if form.isPrefixOf pattern then some (holds, pattern.drop form.length) else none

/-- What a list in brackets says of a character, and the pattern behind; nothing if the list is
not closed. -/
def member? (chr : Char) : Nat → Bool → Char → Text → Option (Bool × Text)
  | 0, _, _, _ => none
  | fuel + 1, found, c, rest =>
    let goOn := fun (found : Bool) (rest : Text) =>
      match rest with
      | ']' :: behind => some (found, behind)
      | c :: rest => member? chr fuel found c rest
      | [] => none
    match if c == '[' then class? rest else none with
    | some (holds, behind) => goOn (found || holds chr) behind
    | none =>
      let (c, rest) := match c, rest with
        | '\\', d :: rest => (d, rest)
        | c, rest => (c, rest)
      match rest with
      | '-' :: d :: behind =>
        if d == ']' then goOn (found || chr == c) rest
        else
          let (last, behind) := match d, behind with
            | '\\', e :: behind => (e, behind)
            | d, behind => (d, behind)
          goOn (found || (order c ≤ order chr && order chr ≤ order last)) behind
      | rest => goOn (found || chr == c) rest

/-- Whether the list at the front of a pattern has a character, and the pattern behind. -/
def list? (chr : Char) (pattern : Text) : Option (Bool × Text) :=
  let (isInverted, pattern) := match pattern with
    | '!' :: rest | '^' :: rest => (true, rest)
    | pattern => (false, pattern)
  match pattern with
  | [] => none
  | c :: rest =>
    (member? chr (rest.length + 1) false c rest).map fun (found, behind) =>
      (found != isInverted, behind)

/-- Whether a text holds at one of its places, up to the end, what is asked of the rest there. -/
def anyTail (holds : Text → Bool) : Text → Bool
  | [] => holds []
  | c :: rest => holds (c :: rest) || anyTail holds rest

/-- Whether a pattern of at most this length matches a text. -/
def matchesTo : Nat → Text → Text → Bool
  | 0, pattern, text => pattern.isEmpty && text.isEmpty
  | fuel + 1, pattern, text =>
    let same := fun (c : Char) (rest : Text) =>
      match text with
      | d :: behind => c == d && matchesTo fuel rest behind
      | [] => false
    match pattern with
    | [] => text.isEmpty
    | '\\' :: c :: rest => same c rest
    | '?' :: rest =>
      match text with
      | _ :: behind => matchesTo fuel rest behind
      | [] => false
    | '*' :: rest => anyTail (matchesTo fuel (rest.dropWhile (· == '*'))) text
    | '[' :: rest =>
      match text with
      | [] => false
      | d :: behind =>
        match list? d rest with
        | some (holds, after) => holds && matchesTo fuel after behind
        | none => same '[' rest
    | c :: rest => same c rest

/-- Whether a pattern matches a whole text. -/
def isMatch (pattern text : Text) : Bool := matchesTo (pattern.length + 1) pattern text

/-- Whether a text has characters that may make it a pattern. -/
def hasSigns (text : Text) : Bool := text.any fun c => c == '*' || c == '?' || c == '['

/-- A text ends at its first null character, which stands between texts that are kept as one. -/
def upToNull (text : Text) : Text := text.takeWhile (· != '\x00')

/-- How much the shortest or longest part is at the left end that matches a pattern.  Of several
texts kept as one, the first alone is looked at; a longest part takes the others with it if the
whole of the first matches. -/
def leftCut? (pattern : Text) (greedy : Bool) (text : Text) : Option Nat :=
  let first := upToNull text
  let cuts := if greedy then (List.range (text.length + 1)).reverse
    else List.range (first.length + 1)
  cuts.find? fun n => isMatch pattern (first.take n)

/-- How much is left of a text in front of the shortest or longest part at the right end that
matches a pattern.  Of several texts kept as one, a longest part is looked for in the first alone and
a shortest one from the last on. -/
def rightCut? (pattern : Text) (greedy : Bool) (text : Text) : Option Nat :=
  let cuts := if greedy then List.range ((upToNull text).length + 1)
    else (List.range (text.length + 1)).reverse
  cuts.find? fun n => isMatch pattern (upToNull (text.drop n))

/-- The same at both ends for texts kept as one of which the first holds signs: the parts looked at
are those of the first, counted from its end, while what is cut off is counted from the end of all.
Behind the first, the pattern itself is looked at, or grows shorter. -/
def alignedCut? (pattern : Text) (fromLeft : Bool) (text : Text) : Option Nat :=
  let first := upToNull text
  let isHit (count : Nat) : Bool :=
    if count ≤ first.length then
      let place := first.length - count
      isMatch pattern (if fromLeft then first.take place else first.drop place)
    else
      let place := pattern.length + 1 + first.length - count
      if fromLeft then isMatch (pattern.take place) first
      else count ≤ first.length + pattern.length + 1 && isMatch pattern (pattern.drop place)
  ((List.range (text.length + 1)).find? isHit).map (text.length - ·)

end JobShell.Toolbox.Pattern
