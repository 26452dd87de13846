import FlashImage.Shell.Session
import FlashImage.Workspace

/-!
How external programs are started by the tool.

A program without slashes in its name is looked for in the directories of the search path first, and
then in those of the system.
-/

set_option autoImplicit false
set_option relaxedAutoImplicit false

namespace FlashImage.Shell

/-- The programs that can be started: the search path, and the files that may be executed. -/
structure Host where
  searchPath : List String
  executables : List Location
  deriving DecidableEq, Repr

def Host.path (host : Host) : String := String.intercalate ":" (host.searchPath ++ [defaultPath])

def hasNul (s : String) : Bool := s.toList.contains '\x00'

def World.start (host : Host) (fs : Files) (number : Nat) : World where
  files := fs
  programs := programNames
  modes := host.executables.map fun l => (l, World.programMode)
  twins := []
  opened := #[⟨.null, 0, false, true, false⟩, ⟨.printed, 0, true, false, true⟩,
    ⟨.complaints, 0, true, false, true⟩]
  pipes := #[]
  printed := []
  complaints := []
  processes := number
  signals := []
  isEnding := false
  kept := none
  clock := 0
  deadline := none

def Process.start (host : Host) (fs : Files) (program : String) : Process where
  world := World.start host fs 1001
  descriptors := [(0, 0), (1, 1), (2, 2)]
  environment := [("PATH", ByteText.encode host.path), ("HOME", "/root"), ("LANG", "C")]
  number := 1001
  parent := 1000
  ignored := []
  speaker := program
  status := 0

def startIn (host : Host) (fs : Files) (directory program : String) (arguments : List String) :
    Except FileFault (Exit × World) := do
  if hasNul program || arguments.any hasNul || hasNul directory then
    throw (.described "nul byte found in provided data")
  match ← fs.find directory with
  | (l, .directory) =>
    let program := ByteText.encode program
    let p := Process.start host { fs with current := l } program
    let found ← findProgram p.world (ByteText.encode host.path) program
    let arguments := arguments.map ByteText.encode
    let (exit, p) ← runFound (runShell shellDepth) programDepth false found arguments p
    return (exit, p.world)
  | _ => throw .notDirectory

/-- Runs external programs. Those that end with a status of zero succeed. -/
def runner (host : Host) : ToolRunner := fun program arguments directory => do
  let fs ← Build.files
  match startIn host fs directory program arguments with
  | .error fault => throw (.toolFailure program (.notStarted fault))
  | .ok (exit, after) =>
    modify fun w =>
      { w with
        files := { after.files with current := fs.current }
        printed := w.printed ++ after.printed
        complaints := w.complaints ++ after.complaints }
    match exit with
    | .status 0 => return ()
    | .status n => throw (.toolFailure program (.exited n))
    | .signal n => throw (.toolFailure program (.killed n (signalName? n)))

end FlashImage.Shell
