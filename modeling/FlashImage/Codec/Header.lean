import FlashImage.Error

/-!
The header in front of a compressed region.

It has 16 bytes: the signature of the codec, the length of the payload, the length of the unpacked
data, a version, a security version number and an attribute byte, all least significant byte first.
A reader of a padded region finds the end of the payload by it.
-/

set_option autoImplicit false
set_option relaxedAutoImplicit false

namespace FlashImage

structure CompressedHeader where
  codec : Codec
  compressedSize : Nat
  size : Nat
  version : Nat
  svn : UInt8
  flags : UInt8
  deriving DecidableEq, Repr

namespace CompressedHeader

def length : Nat := 16

def currentVersion : Nat := 1

def new (codec : Codec) (compressedSize size : Nat) : CompressedHeader :=
  ⟨codec, compressedSize, size, currentVersion, 0, 0⟩

def fields (h : CompressedHeader) : Bytes :=
  Bytes.littleEndian 4 h.compressedSize ++ Bytes.littleEndian 4 h.size ++
    Bytes.littleEndian 2 h.version ++ [h.svn, h.flags]

def read? : Bytes → Option CompressedHeader
  | [m₀, m₁, m₂, m₃, c₀, c₁, c₂, c₃, s₀, s₁, s₂, s₃, v₀, v₁, svn, flags] =>
    (Codec.ofSignature? [m₀, m₁, m₂, m₃]).map fun codec =>
      ⟨codec, Bytes.toNat [c₀, c₁, c₂, c₃], Bytes.toNat [s₀, s₁, s₂, s₃], Bytes.toNat [v₀, v₁],
        svn, flags⟩
  | _ => none

/-- Splits a compressed region into its header and its payload, leaving out what follows them. -/
def parse (data : Bytes) : Option (CompressedHeader × Bytes) :=
  match read? (data.take length) with
  | none => none
  | some h =>
    let rest := data.drop length
    if h.compressedSize ≤ rest.length then some (h, rest.take h.compressedSize) else none

def wrap (codec : Codec) (size : Nat) (payload : Bytes) : Except Error Bytes :=
  match codec.signature? with
  | none => .error (.configuration .headerWithoutCodec)
  | some mark =>
    if payload.length < UInt32.size ∧ size < UInt32.size then
      .ok (mark ++ fields (new codec payload.length size) ++ payload)
    else .error (.configuration (.codecLength codec))

end CompressedHeader
end FlashImage
