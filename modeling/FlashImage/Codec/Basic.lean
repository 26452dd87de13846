import FlashImage.Bytes

/-!
The codecs that a region can be compressed with.
-/

set_option autoImplicit false
set_option relaxedAutoImplicit false

namespace FlashImage

inductive Codec
  | none
  | lz4
  | lzma
  deriving DecidableEq, Repr

def Codec.name : Codec → String
  | .none => "none"
  | .lz4 => "lz4"
  | .lzma => "lzma"

def Codec.signature? : Codec → Option Bytes
  | .none => Option.none
  | .lz4 => some [0x4C, 0x5A, 0x34, 0x20]
  | .lzma => some [0x4C, 0x5A, 0x4D, 0x41]

def Codec.ofSignature? (mark : Bytes) : Option Codec :=
  [Codec.lz4, Codec.lzma].find? fun c => c.signature? = some mark

end FlashImage
