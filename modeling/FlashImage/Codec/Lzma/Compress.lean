import FlashImage.Codec.Lzma.Model

/-!
Compression into the LZMA format with every byte as a literal.

A byte is announced by a zero bit and then given from its highest bit on. Without copies the phase
stays zero.
-/

set_option autoImplicit false
set_option relaxedAutoImplicit false

namespace FlashImage.Lzma

/-- The bits of a literal from bit `n - 1` down to the lowest, with their contexts. -/
def literalBits (previous : Nat) (b : UInt8) : (n node : Nat) → List (Context × Bool)
  | 0, _ => []
  | n + 1, node =>
    let bit := bitOf b n
    (.literal previous node, bit) :: literalBits previous b n (2 * node + bit.toNat)

def byteBits (position : Nat) (previous b : UInt8) : List (Context × Bool) :=
  (.isCopy 0 (columnOf position), false) :: literalBits (previousOf previous) b 8 1

def encodeBits : List (Context × Bool) → Model × Encoder → Model × Encoder
  | [], state => state
  | (c, bit) :: rest, (m, e) =>
    let e := e.encode (m.chance c) bit
    encodeBits rest (m.learn c bit, e)

def encodeBytes : Bytes → (position : Nat) → (previous : UInt8) → Model × Encoder → Model × Encoder
  | [], _, _, state => state
  | b :: rest, position, previous, state =>
    encodeBytes rest (position + 1) b (encodeBits (byteBits position previous b) state)

/-- The size of the window that a decoder has to keep. -/
def windowSize : Nat := 0x00800000

def streamHeader (length : Nat) : Bytes :=
  properties ::
    (Bytes.littleEndian windowWidth windowSize ++ Bytes.littleEndian lengthWidth length)

def compress (raw : Bytes) : Bytes :=
  streamHeader raw.length ++ (encodeBytes raw 0 0 (Model.start, Encoder.start)).2.finish

end FlashImage.Lzma
