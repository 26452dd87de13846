import FlashImage.Error

/-!
Boards: the sizes of their flash areas and regions, and the features that they have.
-/

set_option autoImplicit false
set_option relaxedAutoImplicit false

namespace FlashImage

structure FeatureSet where
  stage1bInPlace : Bool
  firmwareUpdate : Bool
  extraPayload : Bool
  verifiedBoot : Bool
  deriving DecidableEq, Repr

namespace FeatureSet

def none : FeatureSet := ⟨false, false, false, false⟩

def has (s : FeatureSet) : BoardFeature → Bool
  | .stage1bInPlace => s.stage1bInPlace
  | .firmwareUpdate => s.firmwareUpdate
  | .extraPayload => s.extraPayload
  | .verifiedBoot => s.verifiedBoot

def all : List BoardFeature := [.stage1bInPlace, .firmwareUpdate, .extraPayload, .verifiedBoot]

def bits (s : FeatureSet) : Nat := all.foldr (fun f n => (s.has f).toNat + 2 * n) 0

end FeatureSet

structure BoardSizes where
  reset : UInt32
  stage1a : UInt32
  stage1b : UInt32
  stage2 : UInt32
  payload : UInt32
  configData : UInt32
  keyHash : UInt32
  variableStore : UInt32
  reserved : UInt32
  firmwareUpdate : Option UInt32
  extraPayload : Option UInt32
  topSwap : UInt32
  redundant : UInt32
  nonRedundant : UInt32
  nonVolatile : UInt32
  deriving DecidableEq, Repr

namespace BoardSizes

def stage1 (s : BoardSizes) : Nat := s.reset.toNat + s.stage1a.toNat + s.stage1b.toNat

/-- The size of all areas together. There are two top-swap blocks and two redundant copies. -/
def image (s : BoardSizes) : Nat :=
  (s.topSwap.toNat + s.redundant.toNat) * 2 + s.nonRedundant.toNat + s.nonVolatile.toNat

end BoardSizes

structure ResetVector where
  arch : String
  base : UInt32
  deriving DecidableEq, Repr

structure Board where
  name : String
  imageName : String
  padByte : UInt8
  blockSize : UInt32
  flashSize : UInt32
  isRedundant : Bool
  features : FeatureSet
  sizes : BoardSizes
  resetVector : ResetVector
  deriving DecidableEq, Repr

namespace Board

def error (b : Board) (fault : BoardFault) : Error := .configuration (.board b.name fault)

def isPositive : Option UInt32 → Bool
  | some n => n ≠ 0
  | none => false

/-- The first fault of a board that its layout would not show: features and areas need sizes. -/
def fault? (b : Board) : Option BoardFault :=
  if b.blockSize = 0 then some .zeroBlockSize
  else if b.imageName = "" then some .noImageName
  else if b.features.firmwareUpdate ∧ !isPositive b.sizes.firmwareUpdate then
    some (.featureSize .firmwareUpdate "fwupdate")
  else if b.features.extraPayload ∧ !isPositive b.sizes.extraPayload then
    some (.featureSize .extraPayload "epayload")
  else if b.isRedundant then
    if b.sizes.topSwap = 0 then some (.areaSize "top_swap")
    else if b.sizes.redundant = 0 then some (.areaSize "redundant")
    else if b.sizes.nonRedundant = 0 then some (.areaSize "non_redundant")
    else if b.sizes.nonVolatile = 0 then some (.areaSize "non_volatile")
    else none
  else none

def validate (b : Board) : Except Error Unit :=
  match b.fault? with
  | some fault => .error (b.error fault)
  | none => .ok ()

end Board
end FlashImage
