import FlashImage.Codec.Lzma.Model

/-!
Decompression of LZMA streams that record their length.

A stream is a sequence of packets. A packet is a literal byte, or a copy of earlier bytes from some
distance. The last four distances can be repeated, and copies may overlap what they write.
-/

set_option autoImplicit false
set_option relaxedAutoImplicit false

namespace FlashImage.Lzma

abbrev Decoding := StateT (Model × Decoder) Option

def decodeBit (c : Context) : Decoding Bool := fun (m, d) =>
  match d.decode (m.chance c) with
  | some (bit, d) => some (bit, m.learn c bit, d)
  | none => none

/-- Decodes bits from the highest on, and gives them behind the node. -/
def decodeNode (context : Nat → Context) : (n node : Nat) → Decoding Nat
  | 0, node => return node
  | n + 1, node => do
    let bit ← decodeBit (context node)
    decodeNode context n (2 * node + bit.toNat)

def decodeNumber (context : Nat → Context) (bits : Nat) : Decoding Nat := do
  return (← decodeNode context bits 1) - Nat.pow 2 bits

def decodeReversed (context : Nat → Context) : (n node : Nat) → Decoding Nat
  | 0, _ => return 0
  | n + 1, node => do
    let bit ← decodeBit (context node)
    let rest ← decodeReversed context n (2 * node + bit.toNat)
    return bit.toNat + 2 * rest

def decodePlain : (n value : Nat) → Decoding Nat
  | 0, value => return value
  | n + 1, value => fun (m, d) =>
    match d.decodePlain with
    | some (bit, d) => decodePlain n (2 * value + bit.toNat) (m, d)
    | none => none

def decodeLiteral (previous : Nat) : Decoding UInt8 := do
  return UInt8.ofNat (← decodeNumber (.literal previous) 8)

/-- Decodes the bits of a literal that stands behind a copy. Its bits have contexts of their own as
long as they agree with those of the byte that the copy would have gone on with. -/
def decodeDiffering (previous : Nat) (expected : UInt8) : (n node : Nat) → Decoding Nat
  | 0, node => return node
  | n + 1, node => do
    let guess := bitOf expected n
    let bit ← decodeBit (.literal previous (0x100 * (1 + guess.toNat) + node))
    let node := 2 * node + bit.toNat
    if bit = guess then decodeDiffering previous expected n node
    else decodeNode (.literal previous) n node

/-- Decodes the length of a copy, less the least length. -/
def decodeLength (kind : CopyKind) (column : Nat) : Decoding Nat := do
  if !(← decodeBit (.isLonger kind)) then decodeNumber (.shortLength kind column) 3
  else if !(← decodeBit (.isLongest kind)) then
    return 8 + (← decodeNumber (.middleLength kind column) 3)
  else return 16 + (← decodeNumber (.longLength kind) 8)

def decodeDistance (length : Nat) : Decoding Nat := do
  let c ← decodeNumber (.distanceClass (min length 3)) 6
  if c < 4 then return c
  else
    let bits := c / 2 - 1
    let base := (2 + c % 2) * Nat.pow 2 bits
    if c < 14 then
      return base + (← decodeReversed (fun node => .distanceBits (base - c + node)) bits 1)
    else
      let high ← decodePlain (bits - 4) 0
      return base + 16 * high + (← decodeReversed .distanceEnd 4 1)

/-- The distances of earlier copies, less one, the last one first. -/
structure Distances where
  first : Nat
  second : Nat
  third : Nat
  fourth : Nat
  deriving DecidableEq, Repr

/-- What has been decompressed, and what the next packet depends on. -/
structure Window where
  /-- The number of bytes that copies can reach back. -/
  reach : Nat
  bytes : Array UInt8
  phase : Nat
  distances : Distances
  deriving DecidableEq, Repr

namespace Window

def leastReach : Nat := 0x1000

def start (size : Nat) : Window := ⟨max size leastReach, #[], 0, ⟨0, 0, 0, 0⟩⟩

def last (w : Window) : UInt8 := w.bytes.back?.getD 0

def isAfterLiteral (w : Window) : Bool := w.phase < 7

def literalPhase (w : Window) : Nat :=
  if w.phase < 4 then 0 else if w.phase < 10 then w.phase - 3 else w.phase - 6

def push (w : Window) (b : UInt8) : Window := { w with bytes := w.bytes.push b }

def byteAt? (w : Window) (distance : Nat) : Option UInt8 :=
  if distance < min w.reach w.bytes.size then w.bytes[w.bytes.size - 1 - distance]? else none

def copy : (length : Nat) → Window → Option Window
  | 0, w => some w
  | n + 1, w =>
    match w.byteAt? w.distances.first with
    | some b => copy n (w.push b)
    | none => none

end Window

def decodeLiteralPacket (w : Window) : Decoding Window := do
  let previous := previousOf w.last
  let b ←
    if w.isAfterLiteral then decodeLiteral previous
    else do
      let expected ← StateT.lift (w.byteAt? w.distances.first)
      let node ← decodeDiffering previous expected 8 1
      pure (UInt8.ofNat node)
  return { w.push b with phase := w.literalPhase }

/-- Decodes which of the earlier distances is repeated, and puts it first. -/
def decodeOlder (w : Window) : Decoding Distances := do
  let d := w.distances
  if !(← decodeBit (.isThird w.phase)) then return ⟨d.second, d.first, d.third, d.fourth⟩
  else if !(← decodeBit (.isFourth w.phase)) then return ⟨d.third, d.first, d.second, d.fourth⟩
  else return ⟨d.fourth, d.first, d.second, d.third⟩

def leastLength : Nat := 2

def decodeCopy (kind : CopyKind) (w : Window) : Decoding Window := do
  let length ← decodeLength kind (columnOf w.bytes.size)
  let distances ←
    match kind with
    | .fresh => do
      let distance ← decodeDistance length
      pure ⟨distance, w.distances.first, w.distances.second, w.distances.third⟩
    | .repeated => pure w.distances
  let phase :=
    match kind with
    | .fresh => if w.isAfterLiteral then 7 else 10
    | .repeated => if w.isAfterLiteral then 8 else 11
  StateT.lift (Window.copy (leastLength + length) { w with phase, distances })

def decodeRepeat (w : Window) : Decoding Window := do
  if ← decodeBit (.isOlder w.phase) then
    let distances ← decodeOlder w
    decodeCopy .repeated { w with distances }
  else if ← decodeBit (.hasLength w.phase (columnOf w.bytes.size)) then decodeCopy .repeated w
  else StateT.lift (Window.copy 1 { w with phase := if w.isAfterLiteral then 9 else 11 })

def decodePacket (w : Window) : Decoding Window := do
  if !(← decodeBit (.isCopy w.phase (columnOf w.bytes.size))) then decodeLiteralPacket w
  else if ← decodeBit (.isRepeat w.phase) then decodeRepeat w
  else decodeCopy .fresh w

/-- Decodes packets until there are `length` bytes. A packet gives at least one byte, so no more
than `limit` packets are needed if so many bytes are left. -/
def decodePackets (length : Nat) : (limit : Nat) → Window → Decoding Window
  | 0, w => return w
  | limit + 1, w =>
    if length ≤ w.bytes.size then return w
    else do decodePackets length limit (← decodePacket w)

/-- Splits a stream into the size of the window, the length of the data and the packets. -/
def splitHeader? (b : Bytes) : Option (Nat × Nat × Bytes) :=
  match b with
  | first :: rest =>
    if first = properties ∧ windowWidth + lengthWidth ≤ rest.length then
      let lengthBytes := (rest.drop windowWidth).take lengthWidth
      some (Bytes.toNat (rest.take windowWidth), Bytes.toNat lengthBytes,
        rest.drop (windowWidth + lengthWidth))
    else none
  | [] => none

def decompress (b : Bytes) : Option Bytes := do
  let (size, length, packets) ← splitHeader? b
  let decoder ← Decoder.start packets
  let (w, _) ← decodePackets length length (Window.start size) (Model.start, decoder)
  if w.bytes.size = length then some w.bytes.toList else none

end FlashImage.Lzma
