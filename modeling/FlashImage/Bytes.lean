/-!
Byte strings and the little-endian words that headers are made of.

`toNat_littleEndian` says that a word read back is the number written, reduced to the width of the
word, and `littleEndian_toNat` that a number is written again with the bytes it has been read from.
-/

set_option autoImplicit false
set_option relaxedAutoImplicit false

namespace FlashImage

/-- The contents of an artifact, a region, a container or a file. -/
abbrev Bytes := List UInt8

namespace Bytes

def ofText (s : String) : Bytes := s.toUTF8.toList

/-- The text that the bytes encode in UTF-8, or nothing if they encode none. -/
def toText? (b : Bytes) : Option String := String.fromUTF8? ⟨b.toArray⟩

private theorem toList_loop (b : ByteArray) (i : Nat) (before : List UInt8) :
    ByteArray.toList.loop b i before = before.reverse ++ b.data.toList.drop i := by
  fun_induction ByteArray.toList.loop b i before with
  | case1 i before h ih =>
    have hi : i < b.data.toList.length := h
    have hget : b.get! i = b.data.toList[i] := getElem!_pos b.data i h
    rw [ih, List.reverse_cons, List.append_assoc, List.drop_eq_getElem_cons hi, hget]
    rfl
  | case2 i before h => rw [List.drop_eq_nil_of_le (Nat.le_of_not_lt h), List.append_nil]

theorem toText?_ofText (s : String) : toText? (ofText s) = some s := by
  have hbytes : (⟨s.toUTF8.toList.toArray⟩ : ByteArray) = s.toUTF8 := by
    rw [ByteArray.toList, toList_loop]
    rfl
  rw [toText?, ofText, hbytes, String.fromUTF8?, String.toUTF8_eq_toByteArray,
    dif_pos s.isValidUTF8]
  rfl

/-- The `width` low bytes of a number, least significant first. -/
def littleEndian : Nat → Nat → Bytes
  | 0, _ => []
  | width + 1, n => UInt8.ofNat n :: littleEndian width (n / 256)

def toNat : Bytes → Nat
  | [] => 0
  | b :: rest => b.toNat + 256 * toNat rest

@[simp] theorem length_littleEndian (width n : Nat) : (littleEndian width n).length = width := by
  induction width generalizing n with
  | zero => rfl
  | succ w ih => simp [littleEndian, ih]

theorem toNat_littleEndian (width n : Nat) :
    toNat (littleEndian width n) = n % Nat.pow 256 width := by
  induction width generalizing n with
  | zero => simp [littleEndian, toNat, Nat.mod_one]
  | succ w ih =>
    simp only [littleEndian, toNat, ih, UInt8.toNat_ofNat', Nat.reducePow, Nat.pow_eq]
    rw [Nat.pow_succ', Nat.mod_mul]

theorem toNat_lt (b : Bytes) : toNat b < Nat.pow 256 b.length := by
  induction b with
  | nil => decide
  | cons b rest ih =>
    have hb := b.toNat_lt
    have hpow : Nat.pow 256 (rest.length + 1) = Nat.pow 256 rest.length * 256 := rfl
    rw [toNat, List.length_cons, hpow]
    omega

theorem littleEndian_toNat (b : Bytes) : littleEndian b.length (toNat b) = b := by
  induction b with
  | nil => rfl
  | cons b rest ih =>
    have hb := b.toNat_lt
    have hrest : toNat (b :: rest) / 256 = toNat rest := by
      rw [toNat]
      omega
    have hfirst : UInt8.ofNat (toNat (b :: rest)) = b := by
      rw [← UInt8.toNat_inj, UInt8.toNat_ofNat', toNat]
      omega
    rw [List.length_cons, littleEndian, hfirst, hrest, ih]

end Bytes
end FlashImage
