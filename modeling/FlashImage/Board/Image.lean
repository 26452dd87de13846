import FlashImage.Board.Layout
import FlashImage.Stitch.Output
import FlashImage.Stitch.Stitcher

/-!
The flash image of a board: its plan, and how it is built.

The plan needs no files. The image of a redundant board fills the flash; that of a simple board fits
in the non-redundant area.
-/

set_option autoImplicit false
set_option relaxedAutoImplicit false

namespace FlashImage.Board

def imageFault? (b : Board) (image : Container) : Option BoardFault :=
  if b.isRedundant then
    if b.sizes.image ≠ b.flashSize.toNat then some (.areasMismatch b.sizes.image b.flashSize)
    else if image.allocated ≠ b.sizes.image then
      some (.imageMismatch image.name image.allocated b.flashSize)
    else none
  else if b.sizes.nonRedundant.toNat < image.allocated then
    some (.imageTooLarge image.name image.allocated b.sizes.nonRedundant)
  else none

def checkImage (b : Board) (t : LayoutTree) : Except Error Unit :=
  match t.final? with
  | none => .error (b.error .noImage)
  | some image =>
    match b.imageFault? image with
    | some fault => .error (b.error fault)
    | none => .ok ()

/-- The layout of a board, after all checks that need no files. -/
def plan (b : Board) : Except Error LayoutTree :=
  match b.layout with
  | .error e => .error e
  | .ok t =>
    match b.checkImage t with
    | .error e => .error e
    | .ok () =>
      match t.validate with
      | .error e => .error e
      | .ok () => .ok t

def stitch (b : Board) (t : LayoutTree) (store : ArtifactStore) (compress : Compressor) :
    Build StitchOutput := do
  let job : StitchJob := ⟨t, store, compress, b.padByte⟩
  Build.ofExcept (job.preflight (← Build.files))
  return ⟨← Stitching.once job.stitchAll⟩

def build (b : Board) (store : ArtifactStore) (compress : Compressor) : Build StitchOutput := do
  let t ← Build.ofExcept b.plan
  b.stitch t store compress

end FlashImage.Board
