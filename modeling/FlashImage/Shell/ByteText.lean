import FlashImage.Bytes

/-!
Texts of which each character stands for one byte.

Scripts, the arguments of programs and the lines of files are held like this, so that bytes that
encode no text are kept as they are.
-/

set_option autoImplicit false
set_option relaxedAutoImplicit false

namespace FlashImage.ByteText

def ofBytes (b : Bytes) : String := String.ofList (b.map fun x => Char.ofNat x.toNat)

def toBytes (s : String) : Bytes := s.toList.map fun c => UInt8.ofNat c.toNat

def encode (s : String) : String := ofBytes (Bytes.ofText s)

/-- The text whose UTF-8 encoding another stands for. One that encodes no text is left as it is. -/
def decode (s : String) : String := (Bytes.toText? (toBytes s)).getD s

/-- Bytes are what the text for them stands for. -/
theorem toBytes_ofBytes (b : Bytes) : toBytes (ofBytes b) = b := by
  have h (x : UInt8) : UInt8.ofNat (Char.ofNat x.toNat).toNat = x := by
    have hx : x.toNat < 256 := x.toNat_lt
    have hv : x.toNat.isValidChar := Or.inl (by omega)
    have hchar : (Char.ofNatAux x.toNat hv).toNat = x.toNat := rfl
    rw [Char.ofNat, dif_pos hv, hchar, UInt8.ofNat_toNat]
  simp [toBytes, ofBytes, List.map_map, Function.comp_def, h]

end FlashImage.ByteText
