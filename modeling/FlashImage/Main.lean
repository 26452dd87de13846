import FlashImage.Command.Manual
import FlashImage.Files.System
import FlashImage.Shell.Start

/-!
The program: reads the files that a command line names, runs the command on them, and writes what
has changed.

A command works on the files as they were read. Nothing is written before it has ended, and a file
takes the place of an earlier one whole.
-/

set_option autoImplicit false
set_option relaxedAutoImplicit false

namespace FlashImage.Main

def pathsOf : Command → List String
  | .build board artifacts out resetVector tools =>
    board :: out :: artifacts ++ resetVectorPaths resetVector ++ toolPaths tools
  | .stitch layout artifacts out _ _ _ tools => layout :: out :: artifacts ++ toolPaths tools
  | .showBoard board => [board]
  | .showLayout path => [path]
  | .exportBoard board output => board :: output.toList
  | .listBoards directory => directory.toList
where
  resetVectorPaths : ResetVectorSource → List String
    | .artifact => []
    | .prebuilt path => [path]
    | .assembled directory _ => [directory]
  toolPaths : Option CompressionTools → List String
    | some tools => [tools.lz4, tools.lzma]
    | none => []

def pathsToRead (isManual : Bool) (arguments : List String) : List String :=
  if isManual then [arguments.headD Manual.defaultDirectory]
  else
    match Invocation.read arguments with
    | .error _ => []
    | .ok i => "." :: BoardSearch.defaultDirectories ++ i.boardDirectory.toList ++ pathsOf i.command

def depthLimit : Nat := 64

/-- Adds what a path leads to, and all below it, to files. What cannot be read is left out. -/
def addTree : (depth : Nat) → Files → (path : String) → IO Files
  | 0, fs, _ => return fs
  | depth + 1, fs, path => do
    try
      let resolved ← IO.FS.realPath path
      if ← resolved.isDir then
        let fs := (fs.makeDirectories path).2
        (← resolved.readDir).foldlM
          (fun fs entry => addTree depth fs (Path.join path entry.fileName)) fs
      else if ← resolved.pathExists then
        let content := (← IO.FS.readBinFile path).toList
        let fs := (fs.makeDirectories ((Path.parent? path).getD "")).2
        return (fs.write path content).toOption.getD fs
      else return fs
    catch _ => return fs

/-- Writes a file that takes the place of an earlier one whole. -/
def writeFile (path : String) (content : Bytes) : IO Unit := do
  let prepared := path ++ ".new"
  IO.FS.writeBinFile prepared ⟨content.toArray⟩
  IO.FS.rename prepared path

/-- Writes the files that differ from those before, and takes away those that are gone. -/
def writeChanges (before after : Files) : IO Unit := do
  for (l, e) in after.entries.mergeSort fun a b => a.1.length ≤ b.1.length do
    if before.entryAt? l ≠ some e then
      match e with
      | .directory => IO.FS.createDirAll (pathOf l)
      | .file content => writeFile (pathOf l) content
      | _ => return ()
  for (l, e) in before.entries do
    if e ≠ .directory ∧ after.entryAt? l = none then IO.FS.removeFile (pathOf l)

def manualName : String := "gen-manpage"

def run (arguments : List String) : IO UInt32 := do
  let isManual := (← IO.appPath).fileName == some manualName
  let current := (← IO.currentDir).toString
  let scratch := (← IO.getEnv "TMPDIR").getD "/tmp"
  let searchPath := ((← IO.getEnv "PATH").getD "").splitOn ":"
  let location := (Path.parts current).filter (· ≠ "")
  let start : Files := [current, scratch].foldl (fun fs path => (fs.makeDirectories path).2)
    (.system location)
  let fs ← (pathsToRead isManual arguments).foldlM (addTree depthLimit) start
  let host : Shell.Host := ⟨searchPath, fs.entries.map (·.1)⟩
  let w : Workspace := ⟨fs, scratch, [], [], []⟩
  let o :=
    if isManual then Manual.run arguments w else Program.run (Shell.runner host) arguments w
  writeChanges fs o.files
  (← IO.getStdout).write ⟨o.printed.toArray⟩
  (← IO.getStderr).write ⟨o.complaints.toArray⟩
  return UInt32.ofNat o.code

end FlashImage.Main

def main (arguments : List String) : IO UInt32 := FlashImage.Main.run arguments
