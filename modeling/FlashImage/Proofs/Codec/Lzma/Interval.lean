import FlashImage.Codec.Lzma.RangeCoder
import Mathlib.Algebra.GroupWithZero.Nat

/-!
The intervals that a range coder narrows.

A stream is a fraction, and an interval bounds the number that its first digits make. Every bit
narrows the interval to one of two parts, and a small interval is given one more digit. A stream
in a later interval is in all the earlier ones, and a decoder that stands at an interval finds the
bit by which it was narrowed.
-/

set_option autoImplicit false
set_option relaxedAutoImplicit false

namespace FlashImage

/-- The number whose bytes are given, most significant first. -/
def Bytes.bigEndian (b : Bytes) : Nat := Bytes.toNat b.reverse

namespace Bytes

@[simp] theorem bigEndian_nil : bigEndian [] = 0 := rfl

theorem bigEndian_concat (b : Bytes) (last : UInt8) :
    bigEndian (b ++ [last]) = bigEndian b * 256 + last.toNat := by
  rw [bigEndian, List.reverse_concat, toNat, bigEndian]
  omega

private theorem bigEndian_take_succ {b : Bytes} {n : Nat} (h : n < b.length) :
    bigEndian (b.take (n + 1)) = bigEndian (b.take n) * 256 + b[n].toNat := by
  rw [List.take_succ_eq_append_getElem h, bigEndian_concat]

end Bytes

namespace Lzma

structure IsChance (p : Nat) : Prop where
  lower : 31 ≤ p
  upper : p + 31 ≤ probabilityTotal

theorem IsChance.bound {p range : Nat} (hp : IsChance p) (hleast : minRange ≤ range) :
    minRange ≤ range / probabilityTotal * p * 256 ∧
      range / probabilityTotal * p ≤ range ∧
      minRange ≤ (range - range / probabilityTotal * p) * 256 := by
  have hlower := Nat.mul_le_mul_left (range / probabilityTotal) hp.lower
  have hupper := Nat.mul_le_mul_left (range / probabilityTotal) hp.upper
  rw [Nat.mul_add] at hupper
  simp only [minRange, probabilityTotal] at *
  omega

theorem IsChance.adapt {p : Nat} (hp : IsChance p) (bit : Bool) : IsChance (adapt p bit) := by
  obtain ⟨hlower, hupper⟩ := hp
  unfold Lzma.adapt
  simp only [probabilityTotal] at *
  cases bit with
  | false => exact ⟨by simp; omega, by simp [probabilityTotal]; omega⟩
  | true => exact ⟨by simp; omega, by simp [probabilityTotal]; omega⟩

/-- Numbers of so many digits, `range` of them from `low` on. -/
structure Interval where
  low : Nat
  range : Nat
  digits : Nat
  deriving DecidableEq, Repr

namespace Interval

def narrow (p : Nat) (bit : Bool) (i : Interval) : Interval :=
  let bound := i.range / probabilityTotal * p
  if bit then { i with low := i.low + bound, range := i.range - bound }
  else { i with range := bound }

/-- An interval with one more digit if it has become small. -/
def widen (i : Interval) : Interval :=
  if i.range < minRange then ⟨i.low * 256, i.range * 256, i.digits + 1⟩ else i

def encode (p : Nat) (bit : Bool) (i : Interval) : Interval := widen (i.narrow p bit)

/-- The first digits of a stream make a number of the interval. -/
structure Contains (i : Interval) (stream : Bytes) : Prop where
  digits : i.digits ≤ stream.length
  lower : i.low ≤ Bytes.bigEndian (stream.take i.digits)
  upper : Bytes.bigEndian (stream.take i.digits) < i.low + i.range

variable {i : Interval} {stream : Bytes} {p : Nat} {bit : Bool}

private theorem Contains.of_widen (h : i.widen.Contains stream) : i.Contains stream := by
  unfold widen at h
  split at h
  · have hdigits : i.digits < stream.length := h.digits
    have hlower := h.lower
    have hupper := h.upper
    have hdigit := UInt8.toNat_lt stream[i.digits]
    simp only [Bytes.bigEndian_take_succ hdigits] at hlower hupper
    exact ⟨Nat.le_of_succ_le hdigits, by omega, by omega⟩
  · exact h

private theorem Contains.of_narrow (hp : IsChance p) (h : (i.narrow p bit).Contains stream) :
    i.Contains stream := by
  have hbound : i.range / probabilityTotal * p ≤ i.range :=
    Nat.le_trans (Nat.mul_le_mul_left _ (Nat.le_of_add_right_le hp.upper))
      (Nat.div_mul_le_self i.range probabilityTotal)
  cases bit with
  | false =>
    obtain ⟨hdigits, hlower, hupper⟩ := h
    simp only [narrow, Bool.false_eq_true, if_false] at *
    exact ⟨hdigits, hlower, by omega⟩
  | true =>
    obtain ⟨hdigits, hlower, hupper⟩ := h
    simp only [narrow, if_true] at *
    exact ⟨hdigits, by omega, by omega⟩

theorem Contains.of_encode (hp : IsChance p) (h : (i.encode p bit).Contains stream) :
    i.Contains stream :=
  h.of_widen.of_narrow hp

end Interval

/-- A decoder has read the digits of an interval, and holds how far the stream is from its start. -/
structure Decoder.At (d : Decoder) (i : Interval) (stream : Bytes) : Prop where
  range : d.range = i.range
  code : i.low + d.code = Bytes.bigEndian (stream.take i.digits)
  rest : d.rest = stream.drop i.digits

namespace Decoder

variable {d : Decoder} {i : Interval} {stream : Bytes} {p : Nat} {bit : Bool}

theorem At.normalize (h : d.At i stream) (hstream : i.widen.Contains stream) :
    ∃ d', d.normalize = some d' ∧ d'.At i.widen stream := by
  unfold Decoder.normalize
  unfold Interval.widen at hstream ⊢
  rw [h.range]
  by_cases hsmall : i.range < minRange
  · rw [if_pos hsmall] at hstream
    rw [if_pos hsmall, if_pos hsmall]
    have hdigits : i.digits < stream.length := hstream.digits
    have hrest : d.rest = stream[i.digits] :: stream.drop (i.digits + 1) := by
      rw [h.rest, List.drop_eq_getElem_cons hdigits]
    have hcode : i.low * 256 + (d.code * 256 + stream[i.digits].toNat) =
        Bytes.bigEndian (stream.take (i.digits + 1)) := by
      rw [Bytes.bigEndian_take_succ hdigits, ← h.code]
      omega
    rw [hrest]
    exact ⟨_, rfl, rfl, hcode, rfl⟩
  · rw [if_neg hsmall, if_neg hsmall]
    exact ⟨d, rfl, h⟩

/-- A decoder finds the bit by which the interval is narrowed. -/
theorem At.decode (h : d.At i stream) (hstream : (i.encode p bit).Contains stream) :
    ∃ d', d.decode p = some (bit, d') ∧ d'.At (i.encode p bit) stream := by
  have hcode := h.code
  unfold Decoder.decode
  rw [h.range]
  cases bit with
  | false =>
    have hupper : Bytes.bigEndian (stream.take i.digits) <
        i.low + i.range / probabilityTotal * p := hstream.of_widen.upper
    have hat : Decoder.At { d with range := i.range / probabilityTotal * p } (i.narrow p false)
        stream := ⟨rfl, hcode, h.rest⟩
    obtain ⟨d', hd', hat'⟩ := hat.normalize hstream
    refine ⟨d', ?_, hat'⟩
    rw [if_pos (by omega), hd', Option.map_some]
  | true =>
    have hlower : i.low + i.range / probabilityTotal * p ≤
        Bytes.bigEndian (stream.take i.digits) := hstream.of_widen.lower
    have hrest : i.low + i.range / probabilityTotal * p +
        (d.code - i.range / probabilityTotal * p) = Bytes.bigEndian (stream.take i.digits) := by
      omega
    have hat : Decoder.At { d with
        code := d.code - i.range / probabilityTotal * p
        range := i.range - i.range / probabilityTotal * p } (i.narrow p true) stream :=
      ⟨rfl, hrest, h.rest⟩
    obtain ⟨d', hd', hat'⟩ := hat.normalize hstream
    refine ⟨d', ?_, hat'⟩
    rw [if_neg (by omega), hd', Option.map_some]

end Decoder
end Lzma
end FlashImage
