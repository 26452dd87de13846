import FlashImage.Board.Basic
import FlashImage.Layout.Validation

/-!
The layouts of boards.

A simple board has the first stage in a container of its own and all the rest in the image. A
redundant board has every boot-critical stage twice, so that one copy can be updated while the
other one boots; the areas of its image are containers. Features only add entries or take them away.
-/

set_option autoImplicit false
set_option relaxedAutoImplicit false

namespace FlashImage

namespace Region

def withCodec (r : Region) (codec : Codec) : Region := { r with codec := codec }

def exact (r : Region) : Region := { r with policy := .noOp }

def atHead (r : Region) : Region := { r with position := .head }

end Region

/-- The two copies of a redundant board. -/
inductive BoardCopy
  | a
  | b
  deriving DecidableEq, Repr

namespace BoardCopy

def letter : BoardCopy → String
  | .a => "A"
  | .b => "B"

def redundantName (c : BoardCopy) : String := "REDUNDANT_" ++ c.letter ++ ".bin"

def topSwapName (c : BoardCopy) : String := "TOP_SWAP_" ++ c.letter ++ ".bin"

def stage1aName (c : BoardCopy) : String := "STAGE1A_" ++ c.letter ++ ".fd"

def stage1bName (c : BoardCopy) : String := "STAGE1B_" ++ c.letter ++ ".fd"

end BoardCopy

namespace Board

def resetVectorName : String := "RESET.bin"

def stage1Name : String := "STAGE1.bin"

def nonVolatileName : String := "NON_VOLATILE.bin"

def nonRedundantName : String := "NON_REDUNDANT.bin"

def stage1bCodec (b : Board) : Codec := if b.features.stage1bInPlace then .none else .lz4

/-- The region of an optional artifact, which needs its feature and a size. -/
def optionalRegion (on : Bool) (size : Option UInt32) (region : UInt32 → Region) : List Region :=
  match on, size with
  | true, some n => [region n]
  | _, _ => []

def stage1 (b : Board) : Container :=
  ⟨stage1Name,
    [.ofArtifact resetVectorName b.sizes.reset,
      .ofArtifact "STAGE1A.fd" b.sizes.stage1a,
      (Region.ofArtifact "STAGE1B.fd" b.sizes.stage1b).withCodec b.stage1bCodec]⟩

/-- The image of a simple board, in which the first stage has a given size. -/
def simpleImage (b : Board) (stage1Size : UInt32) : Container :=
  ⟨b.imageName,
    [(Region.ofContainer stage1Name stage1Size).exact,
      (Region.ofArtifact "STAGE2.fd" b.sizes.stage2).withCodec .lz4,
      .ofArtifact "CFGDATA.bin" b.sizes.configData,
      (Region.ofArtifact "PAYLOAD.bin" b.sizes.payload).withCodec .lzma] ++
    (if b.features.verifiedBoot then [.ofArtifact "KEYHASH.bin" b.sizes.keyHash] else []) ++
    [(Region.ofArtifact "VARIABLE.bin" b.sizes.variableStore).exact,
      (Region.ofArtifact "SBLRSVD.bin" b.sizes.reserved).exact]⟩

def nonVolatile (b : Board) : Container :=
  ⟨nonVolatileName, [(Region.ofArtifact "SBLRSVD.bin" b.sizes.reserved).exact.atHead]⟩

def nonRedundant (b : Board) : Container :=
  ⟨nonRedundantName,
    [(Region.ofArtifact "VARIABLE.bin" b.sizes.variableStore).exact.atHead,
      ((Region.ofArtifact "PAYLOAD.bin" b.sizes.payload).withCodec .lzma).atHead] ++
    optionalRegion b.features.extraPayload b.sizes.extraPayload fun size =>
      (Region.ofArtifact "EPAYLOAD.bin" size).atHead⟩

def redundantCopy (b : Board) (c : BoardCopy) : Container :=
  ⟨c.redundantName,
    [((Region.ofArtifact c.stage1bName b.sizes.stage1b).withCodec b.stage1bCodec).atHead,
      ((Region.ofArtifact "STAGE2.fd" b.sizes.stage2).withCodec .lz4).atHead] ++
    (optionalRegion b.features.firmwareUpdate b.sizes.firmwareUpdate fun size =>
      ((Region.ofArtifact "FWUPDATE.bin" size).withCodec .lzma).atHead) ++
    [(Region.ofArtifact "CFGDATA.bin" b.sizes.configData).atHead,
      (Region.ofArtifact "KEYHASH.bin" b.sizes.keyHash).atHead]⟩

def topSwap (b : Board) (c : BoardCopy) : Container :=
  ⟨c.topSwapName,
    [(Region.ofArtifact resetVectorName b.sizes.reset).atHead,
      (Region.ofArtifact c.stage1aName b.sizes.stage1a).exact.atHead]⟩

def redundantImage (b : Board) : Container :=
  ⟨b.imageName,
    [(Region.ofContainer BoardCopy.a.topSwapName b.sizes.topSwap).atHead,
      (Region.ofContainer BoardCopy.b.topSwapName b.sizes.topSwap).atHead,
      (Region.ofContainer BoardCopy.a.redundantName b.sizes.redundant).atHead,
      (Region.ofContainer BoardCopy.b.redundantName b.sizes.redundant).atHead,
      (Region.ofContainer nonRedundantName b.sizes.nonRedundant).atHead,
      (Region.ofContainer nonVolatileName b.sizes.nonVolatile).atHead]⟩

def emptyLayout (b : Board) : LayoutTree := .empty (some b.name) b.blockSize (some b.padByte)

def redundantContainers (b : Board) : List Container :=
  [b.nonVolatile, b.nonRedundant, b.redundantCopy .a, b.redundantCopy .b, b.topSwap .a,
    b.topSwap .b, b.redundantImage]

def simpleContainers (b : Board) : Except Error (List Container) :=
  if b.sizes.stage1 < UInt32.size then
    .ok [b.stage1, b.simpleImage (UInt32.ofNat b.sizes.stage1)]
  else .error (b.error .stage1TooLarge)

def containers (b : Board) : Except Error (List Container) :=
  if b.isRedundant then .ok b.redundantContainers else b.simpleContainers

def layout (b : Board) : Except Error LayoutTree :=
  match b.containers with
  | .error e => .error e
  | .ok cs => b.emptyLayout.addAll cs

end Board
end FlashImage
