import FlashImage.Board.Library
import FlashImage.Command.Session

/-!
How a board is found: by the path of its file, or by its name in directories for boards.

A file at the path counts first, then the directories in order.
-/

set_option autoImplicit false
set_option relaxedAutoImplicit false

namespace FlashImage.BoardSearch

def defaultDirectories : List String :=
  ["boards", "/usr/share/fwstitch/boards", "/usr/local/share/fwstitch/boards"]

def directories : Option String → List String
  | some directory => [directory]
  | none => defaultDirectories

def candidates (directories : List String) (name : String) : List String :=
  name :: directories.map fun d => Path.join d (name ++ "." ++ Board.extension)

def find (directory : Option String) (name : String) : Session Board := do
  let searched := directories directory
  let fs ← Session.files
  match (candidates searched name).find? fs.isFile with
  | some path => Session.ofBuild (Board.load path)
  | none => throw (.boardNotFound name searched)

def readable (directory : String) : Session (List Board) := do
  let fs ← Session.files
  if fs.isDirectory directory then
    let paths ← Session.ofBuild (Board.list directory)
    return paths.filterMap fun path => (Board.ofFile fs path).toOption
  else return []

def readableEach : List String → Session (List Board)
  | [] => return []
  | d :: rest => do
    let first ← readable d
    let others ← readableEach rest
    return first ++ others

end FlashImage.BoardSearch
