import FlashImage.Board.Document
import FlashImage.Workspace

/-!
Boards in files: one board a file, and directories of such files.
-/

set_option autoImplicit false
set_option relaxedAutoImplicit false

namespace FlashImage.Board

def extension : String := "ron"

def ofFile (fs : Files) (path : String) : Except Error Board :=
  match fs.readText path with
  | .error fault => .error (.file path fault)
  | .ok text => Board.readFrom path text

def load (path : String) : Build Board := do Build.ofExcept (ofFile (← Build.files) path)

/-- The paths of the boards in a directory, in rising order of their names. -/
def list (directory : String) : Build (List String) := do
  let names ← Build.look directory (·.list directory)
  return (names.filter (Path.hasExtension extension)).map (Path.join directory)

end FlashImage.Board
