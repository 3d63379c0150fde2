import JobShell.Toolbox.CharacterClass

/-!
Regular expressions and the places in a line that they match.

An expression is followed from a set of places to the set of places where what it matches may end
(`Expression.follow`), so that of all matches at one place the longest is known.
-/

namespace JobShell.Toolbox

/-- Borders in a line. -/
inductive Edge
  | lineStart | lineEnd | wordStart | wordEnd
  /-- Either border of a word. -/
  | wordEdge
  /-- Anywhere but at a border of a word. -/
  | noWordEdge
  deriving DecidableEq

/-- A regular expression. -/
inductive Expression
  | empty
  | oneOf (isMember : Char → Bool)
  | at_ (edge : Edge)
  /-- What the inner expression matches is known by the number. -/
  | group (number : Nat) (inner : Expression)
  | sequence (first second : Expression)
  | choice (first second : Expression)
  | repeated (inner : Expression) (least : Nat) (most : Option Nat)
  /-- What the group with the number matched, once more. -/
  | again (number : Nat)

/-- A place in a line, and what the groups on the way to it matched. -/
structure Trail where
  place : Nat
  groups : List (Nat × Nat × Nat) := []
  deriving DecidableEq

/-- A line that is searched, and how characters are compared. -/
structure Line where
  characters : Array Char
  ignoresCase : Bool
  /-- Groups are noted; without need for them they would only make trails differ. -/
  notesGroups : Bool

namespace Line

def isWordChar (line : Line) (place : Nat) : Bool :=
  line.characters[place]?.any Text.isNameChar

/-- There is a character of a word before a place. -/
def isAfterWord (line : Line) (place : Nat) : Bool := 0 < place && line.isWordChar (place - 1)

def isAt (line : Line) (place : Nat) (edge : Edge) : Bool :=
  let (before, behind) := (line.isAfterWord place, line.isWordChar place)
  match edge with
  | .lineStart => place == 0
  | .lineEnd => place == line.characters.size
  | .wordStart => !before && behind
  | .wordEnd => before && !behind
  | .wordEdge => before != behind
  | .noWordEdge => before == behind

/-- The characters from a place on are those from `first` up to `last`. -/
def repeats (line : Line) (place first last : Nat) : Bool :=
  let same := fun (c d : Char) => if line.ignoresCase then c.toLower == d.toLower else c == d
  (List.range (last - first)).all fun k =>
    match line.characters[first + k]?, line.characters[place + k]? with
    | some c, some d => same c d
    | _, _ => false

end Line

namespace Expression

/-- Applies a step again and again, at most so often, and gathers what has been reached. -/
def gather (step : List Trail → List Trail) : Nat → List Trail → List Trail → List Trail
  | 0, reached, _ => reached
  | times + 1, reached, fresh =>
    let next := (step fresh).eraseDups.filter (!reached.contains ·)
    if next.isEmpty then reached else gather step times (reached ++ next) next

/-- Applies a step so often; nothing comes of nothing. -/
def iterate (step : List Trail → List Trail) : Nat → List Trail → List Trail
  | 0, trails => trails
  | times + 1, trails =>
    if trails.isEmpty then [] else iterate step times (step trails).eraseDups

/-- The trails behind what an expression matches, from those before it. -/
def follow (line : Line) : Expression → List Trail → List Trail
  | empty, trails => trails
  | oneOf isMember, trails =>
    trails.filterMap fun t =>
      if line.characters[t.place]?.any isMember then some { t with place := t.place + 1 } else none
  | at_ edge, trails => trails.filter fun t => line.isAt t.place edge
  | group number inner, trails =>
    if line.notesGroups then
      trails.flatMap fun start =>
        (follow line inner [start]).map fun t =>
          { t with
            groups := (number, start.place, t.place) :: t.groups.filter (·.1 != number) }
    else follow line inner trails
  | sequence first second, trails => follow line second (follow line first trails)
  | choice first second, trails => (follow line first trails ++ follow line second trails).eraseDups
  | repeated inner least most, trails =>
    let step := follow line inner
    let start := iterate step least trails
    gather step (most.elim (line.characters.size + 1) (· - least)) start start
  | again number, trails =>
    trails.filterMap fun t =>
      match t.groups.lookup number with
      | some (first, last) =>
        if line.repeats t.place first last then some { t with place := t.place + (last - first) }
        else none
      | none => none

/-- The expression refers to a group. -/
def refersBack : Expression → Bool
  | again _ => true
  | group _ inner | repeated inner _ _ => inner.refersBack
  | sequence first second | choice first second => first.refersBack || second.refersBack
  | empty | oneOf _ | at_ _ => false

/-- The places at which a match from `start` on may end. -/
def ends (expression : Expression) (line : Line) (start : Nat) : List Nat :=
  (expression.follow line [⟨start, []⟩]).map (·.place)

/-- The characters of a text in turn. -/
def ofText (ignoresCase : Bool) (text : Text) : Expression :=
  text.foldr
    (fun c rest =>
      let isMember := fun (d : Char) =>
        if ignoresCase then c.toLower == d.toLower else c == d
      .sequence (.oneOf isMember) rest)
    .empty

end Expression

end JobShell.Toolbox
