/-!
Texts in columns.
-/

namespace JobShell.Text

/-- A text filled up with spaces behind it to a width. -/
def leftAligned (width : Nat) (text : String) : String :=
  text ++ "".pushn ' ' (width - text.length)

end JobShell.Text
