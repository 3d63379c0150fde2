import JobShell.Toolbox.Text

/-!
Named classes of characters.

A list in brackets may hold the name of a class between colons.
-/

namespace JobShell.Toolbox

namespace CharacterClass

/-- The classes by their names. -/
def all : List (String × (Char → Bool)) :=
  [("alnum", Char.isAlphanum), ("cntrl", fun c => c < ' ' || c.toNat == 127),
   ("lower", Char.isLower), ("space", Text.isBlank), ("alpha", Char.isAlpha),
   ("digit", Char.isDigit), ("print", Text.isPrintable), ("upper", Char.isUpper),
   ("blank", fun c => c == ' ' || c == '\t'), ("graph", fun c => Text.isPrintable c && c != ' '),
   ("punct", fun c => Text.isPrintable c && c != ' ' && !c.isAlphanum), ("xdigit", Text.isHex)]

def named? (name : Text) : Option (Char → Bool) := all.lookup (String.ofList name)

end CharacterClass

end JobShell.Toolbox
