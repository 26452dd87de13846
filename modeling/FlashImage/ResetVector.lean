import FlashImage.Board.Layout
import FlashImage.Stitch.ArtifactStore
import FlashImage.Text.Numeral
import FlashImage.Workspace

/-!
The reset vector: assembled right before stitching, or taken from a file.

An earlier blob is removed first, so a blob that is found afterwards has been made by the tools.
-/

set_option autoImplicit false
set_option relaxedAutoImplicit false

namespace FlashImage

structure ResetVectorBuild where
  /-- The directory with the source. -/
  directory : String
  /-- The start of the names of the tools. -/
  toolPrefix : String
  arch : String
  base : UInt32
  deriving DecidableEq, Repr

structure ToolCommand where
  program : String
  arguments : List String
  deriving DecidableEq, Repr

/-- Checks the size of a reset vector from some origin. -/
def ResetVector.check (blob : Bytes) (allocated : UInt32) (origin : String) : Except Error Unit :=
  if blob.isEmpty then .error (.toolFailure origin .emptyResetVector)
  else if allocated.toNat < blob.length then
    .error (.configuration (.resetVectorSize origin blob.length allocated))
  else .ok ()

def Build.readContent (path : String) : Build Bytes := Build.look path (·.read path)

def ResetVector.load (path : String) (allocated : UInt32) : Build Bytes := do
  let blob ← Build.readContent path
  Build.ofExcept (check blob allocated path)
  return blob

/-- Puts a reset vector into a store, under the name by which layouts know it. -/
def ArtifactStore.insertResetVector (s : ArtifactStore) (blob : Bytes) : ArtifactStore :=
  s.insert Board.resetVectorName blob

namespace ResetVectorBuild

def ofBoard (b : Board) (directory toolPrefix : String) : ResetVectorBuild :=
  ⟨directory, toolPrefix, b.resetVector.arch, b.resetVector.base⟩

def resultName : String := "Bin"

def objectName : String := "ResetVector.o"

def rawName (r : ResetVectorBuild) : String := "ResetVector." ++ r.arch ++ ".raw"

def resultDirectory (r : ResetVectorBuild) : String := Path.join r.directory resultName

def objectPath (r : ResetVectorBuild) : String := Path.join r.resultDirectory objectName

def outputPath (r : ResetVectorBuild) : String := Path.join r.resultDirectory r.rawName

def extractor (r : ResetVectorBuild) : String := r.toolPrefix ++ "objcopy"

/-- The programs that are run, in order, with paths from the directory of the source. -/
def commands (r : ResetVectorBuild) : List ToolCommand :=
  let object := Path.join resultName objectName
  [⟨r.toolPrefix ++ "gcc",
      ["-c", "ResetVector.S", "-D", "BFV_ADDR=" ++ Text.prefixedHex r.base.toNat, "-o", object]⟩,
    ⟨r.extractor, ["-O", "binary", object, Path.join resultName r.rawName]⟩]

def removeStale (path : String) : Build Unit := do
  match (← Build.files).removeFile path with
  | .ok fs => Build.setFiles fs
  | .error .notFound => return ()
  | .error fault => throw (.file path fault)

/-- Removes a file if that is possible. -/
def removeQuietly (path : String) : Build Unit := do
  match (← Build.files).removeFile path with
  | .ok fs => Build.setFiles fs
  | .error _ => return ()

/-- Runs programs one after another in a directory, up to the first that fails. -/
def runEach (run : ToolRunner) (directory : String) : List ToolCommand → Build Unit
  | [] => return ()
  | c :: rest => do
    Build.record (.toolRun c.program c.arguments directory)
    run c.program c.arguments directory
    runEach run directory rest

def run (r : ResetVectorBuild) (runTool : ToolRunner) (allocated : UInt32) : Build Bytes := do
  Build.makeDirectories r.resultDirectory
  removeStale r.outputPath
  runEach runTool r.directory r.commands
  if !(← Build.files).isFile r.outputPath then
    throw (.toolFailure r.extractor (.noOutput r.outputPath))
  let blob ← Build.readContent r.outputPath
  removeQuietly r.objectPath
  Build.ofExcept (ResetVector.check blob allocated r.outputPath)
  return blob

end ResetVectorBuild
end FlashImage
