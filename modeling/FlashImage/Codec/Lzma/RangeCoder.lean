import FlashImage.Bytes

/-!
The adaptive binary range coder.

A probability is the chance of a zero bit in units of 1/2048. The encoder narrows an interval of
32-bit fractions with every bit; the bytes of its lower end are written as soon as no carry can
change them. The decoder holds the distance of the encoded fraction from that lower end.
-/

set_option autoImplicit false
set_option relaxedAutoImplicit false

namespace FlashImage.Lzma

def fullRange : Nat := 0xFFFFFFFF

/-- Probabilities are parts of this number. -/
def probabilityTotal : Nat := 0x800

def evenChance : Nat := 0x400

def adapt (p : Nat) (bit : Bool) : Nat :=
  if bit then p - p / 32 else p + (probabilityTotal - p) / 32

/-- A range is widened when it is below this. -/
def minRange : Nat := 0x1000000

/-- The state of an encoder. The bytes held back are `cache` and, behind it, `pending - 1` bytes
of value 255; a carry out of `low` runs through them. -/
structure Encoder where
  low : Nat
  range : Nat
  cache : UInt8
  pending : Nat
  out : Array UInt8
  deriving DecidableEq, Repr

namespace Encoder

def start : Encoder := ⟨0, fullRange, 0, 1, #[]⟩

def pushCopies (b : UInt8) : Nat → Array UInt8 → Array UInt8
  | 0, out => out
  | n + 1, out => pushCopies b n (out.push b)

/-- Writes the bytes held back, with the carry, and holds back the top byte of `low` instead. -/
def release (e : Encoder) : Encoder :=
  let carry := UInt8.ofNat (e.low / UInt32.size)
  { e with
    out := pushCopies (255 + carry) (e.pending - 1) (e.out.push (e.cache + carry))
    cache := UInt8.ofNat (e.low / 0x1000000)
    pending := 0 }

def shift (e : Encoder) : Encoder :=
  let e := if e.low < 0xFF000000 ∨ 0xFFFFFFFF < e.low then e.release else e
  { e with pending := e.pending + 1, low := e.low * 256 % UInt32.size }

/-- Widens the range again when it has become small. A bit leaves at least 2 ^ 16 of it, so one
byte is enough. -/
def normalize (e : Encoder) : Encoder :=
  if e.range < minRange then { e.shift with range := e.range * 256 } else e

def encode (p : Nat) (bit : Bool) (e : Encoder) : Encoder :=
  let bound := e.range / probabilityTotal * p
  normalize <|
    if bit then { e with low := e.low + bound, range := e.range - bound }
    else { e with range := bound }

def finish (e : Encoder) : Bytes := e.shift.shift.shift.shift.shift.out.toList

end Encoder

/-- The state of a decoder: the distance of the fraction from the lower end, the range, and the
bytes that have not been read. -/
structure Decoder where
  code : Nat
  range : Nat
  rest : Bytes
  deriving DecidableEq, Repr

namespace Decoder

def start : Bytes → Option Decoder
  | 0 :: b₃ :: b₂ :: b₁ :: b₀ :: rest => some ⟨Bytes.toNat [b₀, b₁, b₂, b₃], fullRange, rest⟩
  | _ => none

def normalize (d : Decoder) : Option Decoder :=
  if d.range < minRange then
    match d.rest with
    | [] => none
    | b :: rest => some ⟨d.code * 256 + b.toNat, d.range * 256, rest⟩
  else some d

def decode (p : Nat) (d : Decoder) : Option (Bool × Decoder) :=
  let bound := d.range / probabilityTotal * p
  if d.code < bound then (normalize { d with range := bound }).map (false, ·)
  else (normalize { d with code := d.code - bound, range := d.range - bound }).map (true, ·)

def decodePlain (d : Decoder) : Option (Bool × Decoder) :=
  let half := d.range / 2
  if d.code < half then (normalize { d with range := half }).map (false, ·)
  else (normalize { d with code := d.code - half, range := half }).map (true, ·)

end Decoder
end FlashImage.Lzma
