import FlashImage.Board.Image
import FlashImage.Command.BoardSearch
import FlashImage.Command.Invocation
import FlashImage.Command.Report
import FlashImage.Layout.File
import FlashImage.ResetVector
import FlashImage.Text.Quoted

/-!
What the commands do.

A build checks the board before it starts any program, and nothing is written before all containers
have been built.
-/

set_option autoImplicit false
set_option relaxedAutoImplicit false

namespace FlashImage

def Compressor.choose (run : ToolRunner) : Option CompressionTools → Compressor
  | some tools => Compressor.ofTools tools run
  | none => Compressor.builtIn

def ResetVectorSource.provide (run : ToolRunner) (b : Board) (store : ArtifactStore) :
    ResetVectorSource → Build ArtifactStore
  | .artifact => return store
  | .prebuilt path => do
    return store.insertResetVector (← ResetVector.load path b.sizes.reset)
  | .assembled directory toolPrefix => do
    let r := ResetVectorBuild.ofBoard b directory toolPrefix
    return store.insertResetVector (← r.run run b.sizes.reset)

def Board.assemble (run : ToolRunner) (b : Board) (artifacts : List String)
    (resetVector : ResetVectorSource) (tools : Option CompressionTools) : Build StitchOutput := do
  let t ← Build.ofExcept b.plan
  let store ← resetVector.provide run b (.ofDirectories artifacts)
  b.stitch t store (Compressor.choose run tools)

namespace Command

def runBuild (run : ToolRunner) (b : Board) (artifacts : List String) (out : String)
    (resetVector : ResetVectorSource) (tools : Option CompressionTools) : Session Unit := do
  Session.printLine b.announcement
  let output ← Session.ofBuild (b.assemble run artifacts resetVector tools)
  let paths ← Session.ofBuild (output.write out true)
  Session.printLines (paths.map ("  " ++ ·))
  match output.final? with
  | some (_, image) => Session.printLine (imageSummary b.imageName image.length)
  | none => return ()

def stitchContainer (job : StitchJob) (out name : String) : Session Unit := do
  let fs ← Session.files
  Session.ofExcept (job.preflightFor fs name)
  let data ← Session.ofBuild (Stitching.once (job.stitch name))
  Session.makeDirectories out
  let path := Path.join out name
  Session.ofBuild (Build.writeWhole path data)
  Session.printLine ("Wrote " ++ path ++ " (" ++ toString data.length ++ " bytes)")

def stitchImage (job : StitchJob) (out : String) (intermediates : Bool) : Session Unit := do
  let fs ← Session.files
  Session.ofExcept (job.preflight fs)
  let containers ← Session.ofBuild (Stitching.once job.stitchAll)
  let paths ← Session.ofBuild ((StitchOutput.mk containers).write out intermediates)
  Session.printLines (paths.map ("Wrote " ++ ·))

/-- The job of stitching a layout, with the settings that replace those of the layout. -/
def stitchJob (run : ToolRunner) (t : LayoutTree) (artifacts : List String)
    (padByte : Option UInt8) (blockSize : Option UInt32) (tools : Option CompressionTools) :
    Session StitchJob :=
  match padByte.or t.padByte with
  | some pad =>
    return ⟨{ t with blockSize := blockSize.getD t.blockSize }, .ofDirectories artifacts,
      Compressor.choose run tools, pad⟩
  | none => throw .noPadByte

def warning : Except Error Unit → List String
  | .ok () => []
  | .error e => ["\nWarning: " ++ e.message]

def showBoardLayout (b : Board) : Session Unit := do
  let t ← Session.ofExcept b.layout
  Session.ofExcept t.validate
  Session.printLines (t.report ++ warning (b.checkImage t))

def showLayoutFile (path : String) : Session Unit := do
  let t ← Session.ofBuild (LayoutTree.load path)
  Session.printLines (t.report ++ warning t.validate)

/-- Prints the layout of a board as a document, or writes it to a file. -/
def exportBoardLayout (b : Board) (output : Option String) : Session Unit := do
  let t ← Session.ofExcept b.layout
  match output with
  | some path => do
    Session.ofBuild (t.save path)
    Session.printLine ("Saved layout to " ++ Text.quoted path)
  | none => Session.printLine t.document

def run (runTool : ToolRunner) (boardDirectory : Option String) : Command → Session Unit
  | .build board artifacts out resetVector tools => do
    let b ← BoardSearch.find boardDirectory board
    runBuild runTool b artifacts out resetVector tools
  | .stitch layout artifacts out padByte blockSize goal tools => do
    let t ← Session.ofBuild (LayoutTree.load layout)
    let job ← stitchJob runTool t artifacts padByte blockSize tools
    match goal with
    | .container name => stitchContainer job out name
    | .image intermediates => stitchImage job out intermediates
  | .showBoard board => do showBoardLayout (← BoardSearch.find boardDirectory board)
  | .showLayout path => showLayoutFile path
  | .exportBoard board output => do
    exportBoardLayout (← BoardSearch.find boardDirectory board) output
  | .listBoards directory => do
    let boards ← BoardSearch.readableEach (BoardSearch.directories (directory.or boardDirectory))
    Session.printLines (boardsReport boards)

end Command
end FlashImage
