import JobShell.Log.Directive

/-!
Which log records are shown.

A filter is a list of directives separated by commas.  Of the directives that apply to a record the
most specific decides, of two equally specific ones the later.
-/

namespace JobShell.Log

/-- The directives of a filter. -/
structure Filter where
  directives : List Directive
  deriving DecidableEq, Repr

namespace Filter

/-- The parts between commas, without the empty ones. -/
def parts (cs : List Char) : List (List Char) :=
  (cs.splitOn ',').filter (!·.isEmpty)

/-- Records up to a level. -/
def upTo (level : Level) : Filter := ⟨[{ threshold := level.rank }]⟩

/-- The filter that a text spells; a text without directives shows errors only. -/
def parse? (text : String) : Option Filter :=
  match (parts text.toList).mapM Directive.parse? with
  | none => none
  | some [] => some (upTo .error)
  | some directives => some ⟨directives⟩

/-- The directive that decides on a target. -/
def deciding (filter : Filter) (target : List Char) : Option Directive :=
  filter.directives.foldl
    (fun best d =>
      if !d.applies target || best.any (!d.isAtLeast ·) then best else some d)
    none

def admits (filter : Filter) (record : Record) : Bool :=
  match filter.deciding record.source.target.toList with
  | none => false
  | some d => record.level.rank ≤ d.threshold

end Filter

end JobShell.Log
