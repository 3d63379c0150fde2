import JobShell.Machine.Image
import JobShell.Script.Start
import JobShell.Toolbox.Condition
import JobShell.Toolbox.Directories
import JobShell.Toolbox.Echo
import JobShell.Toolbox.Format
import JobShell.Toolbox.Listing
import JobShell.Toolbox.Move
import JobShell.Toolbox.Search
import JobShell.Toolbox.Sleep

/-!
What the installed programs do.
-/

namespace JobShell.Machine

open Toolbox

/-- The work of a program that has been called. -/
def Image.doing (image : Image) (env : Environment) : Doing Nat :=
  let texts := image.words.map Bytes.toLatin
  let call : Call := { name := texts.head?.getD [], arguments := texts.drop 1, env }
  match image.tool with
  | .shell => Script.Start.doing call
  | .succeed | .silent => pure 0
  | .fail => pure 1
  | .check => Condition.run call
  | .bracket => Condition.runBracketed call
  | .echo => Echo.run call
  | .sleep => Sleep.run call
  | .makeDirectory => Directories.make call
  | .removeDirectory => Directories.remove call
  | .search => Search.run call
  | .move => Move.run call
  | .workingDirectory => Directories.showPath call
  | .format => Format.run call
  | .list => Listing.run call

end JobShell.Machine
