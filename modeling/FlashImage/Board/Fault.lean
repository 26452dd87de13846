import FlashImage.Text.Numeral

/-!
The optional features of a board, and what can be wrong with a board.
-/

set_option autoImplicit false
set_option relaxedAutoImplicit false

namespace FlashImage

inductive BoardFeature
  /-- Stage 1B runs in place and is not compressed. -/
  | stage1bInPlace
  /-- Each redundant copy holds a firmware update. -/
  | firmwareUpdate
  /-- The non-redundant area holds an extra payload. -/
  | extraPayload
  /-- The simple image holds the key hashes. -/
  | verifiedBoot
  deriving DecidableEq, Repr

def BoardFeature.flag : BoardFeature → String
  | .stage1bInPlace => "STAGE1B_XIP"
  | .firmwareUpdate => "ENABLE_FWU"
  | .extraPayload => "HAVE_EPAYLOAD"
  | .verifiedBoot => "HAVE_VERIFIED_BOOT"

inductive BoardFault
  | zeroBlockSize
  | noImageName
  /-- A feature is on, and the size of its region is zero or absent. -/
  | featureSize (feature : BoardFeature) (field : String)
  /-- An area of the redundant layout has the size zero. -/
  | areaSize (field : String)
  | stage1TooLarge
  | noImage
  /-- The areas do not add up to the flash. -/
  | areasMismatch (sum : Nat) (flash : UInt32)
  /-- The regions of the image do not add up to the flash. -/
  | imageMismatch (image : String) (allocated : Nat) (flash : UInt32)
  /-- The regions of the image exceed the non-redundant area. -/
  | imageTooLarge (image : String) (allocated : Nat) (area : UInt32)
  deriving DecidableEq, Repr

open Text in
def BoardFault.message : BoardFault → String
  | .zeroBlockSize => "flash block size must be non-zero"
  | .noImageName => "image name is empty"
  | .featureSize feature field =>
    "feature BoardFeatures(" ++ feature.flag ++ ") needs a non-zero '" ++ field ++ "' size"
  | .areaSize field => "redundant layout needs a non-zero '" ++ field ++ "' size"
  | .stage1TooLarge => "stage 1 exceeds 4 GiB"
  | .noImage => "layout has no final image"
  | .areasMismatch sum flash =>
    "top-swap, redundant, non-redundant and non-volatile areas add up to " ++ prefixedHex sum ++
      " bytes but the flash size is " ++ prefixedHex flash.toNat
  | .imageMismatch image allocated flash =>
    "image '" ++ image ++ "' allocates " ++ prefixedHex allocated ++
      " bytes but the flash size is " ++ prefixedHex flash.toNat
  | .imageTooLarge image allocated area =>
    "image '" ++ image ++ "' allocates " ++ prefixedHex allocated ++
      " bytes but the non-redundant area is " ++ prefixedHex area.toNat

end FlashImage
