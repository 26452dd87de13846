import FlashImage.Codec.Lzma.RangeCoder

/-!
The probabilities of LZMA: what each bit of a stream depends on, and what has been learnt about it.

Streams have the usual sizes of contexts: three bits of the byte before a literal, none of its
position, and two bits of the position elsewhere.
-/

set_option autoImplicit false
set_option relaxedAutoImplicit false

namespace FlashImage.Lzma

/-- The kinds of copies, which have lengths of different probabilities. -/
inductive CopyKind
  | fresh
  /-- The distance has been used before. -/
  | repeated
  deriving DecidableEq, Repr

/-- What the probability of a bit depends on. A phase says what the last packets were, a column is
the position modulo four, and a node holds the bits given already behind a leading one. -/
inductive Context
  /-- Whether a packet is a copy. -/
  | isCopy (phase column : Nat)
  /-- Whether a copy repeats a distance. -/
  | isRepeat (phase : Nat)
  /-- Whether the repeated distance is not the last one. -/
  | isOlder (phase : Nat)
  /-- Whether the repeated distance is not the second last one. -/
  | isThird (phase : Nat)
  /-- Whether the repeated distance is not the third last one. -/
  | isFourth (phase : Nat)
  /-- Whether a copy at the last distance has a length. Otherwise it is one byte long. -/
  | hasLength (phase column : Nat)
  /-- Whether a length is above the first eight. -/
  | isLonger (kind : CopyKind)
  /-- Whether a length is above the first sixteen. -/
  | isLongest (kind : CopyKind)
  | shortLength (kind : CopyKind) (column node : Nat)
  | middleLength (kind : CopyKind) (column node : Nat)
  | longLength (kind : CopyKind) (node : Nat)
  /-- The class of a distance, given the class of the length. -/
  | distanceClass (lengthClass node : Nat)
  /-- The low bits of a distance in a low class. -/
  | distanceBits (offset : Nat)
  /-- The lowest four bits of a distance in a high class. -/
  | distanceEnd (node : Nat)
  /-- A bit of a literal: the top three bits of the byte before it, and the node. -/
  | literal (previous node : Nat)
  deriving DecidableEq, Repr

def lengthContexts : Nat := 322

def CopyKind.start : CopyKind → Nat
  | .fresh => 532
  | .repeated => 532 + lengthContexts

def literalStart : Nat := 532 + 2 * lengthContexts

def Context.index : Context → Nat
  | .isCopy phase column => phase * 4 + column
  | .isRepeat phase => 48 + phase
  | .isOlder phase => 60 + phase
  | .isThird phase => 72 + phase
  | .isFourth phase => 84 + phase
  | .hasLength phase column => 96 + phase * 4 + column
  | .distanceClass lengthClass node => 144 + lengthClass * 64 + node
  | .distanceBits offset => 400 + offset
  | .distanceEnd node => 516 + node
  | .isLonger kind => kind.start
  | .isLongest kind => kind.start + 1
  | .shortLength kind column node => kind.start + 2 + column * 8 + node
  | .middleLength kind column node => kind.start + 34 + column * 8 + node
  | .longLength kind node => kind.start + 66 + node
  | .literal previous node => literalStart + previous * 0x300 + node

abbrev Model := Array Nat

def Model.start : Model := Array.replicate (literalStart + 8 * 0x300) evenChance

def Model.chance (m : Model) (c : Context) : Nat := m.getD c.index evenChance

def Model.learn (m : Model) (c : Context) (bit : Bool) : Model :=
  m.setIfInBounds c.index (adapt (m.chance c) bit)

def columnOf (position : Nat) : Nat := position % 4

def previousOf (b : UInt8) : Nat := b.toNat / 32

def bitOf (b : UInt8) (i : Nat) : Bool := b.toNat.testBit i

def properties : UInt8 := 0x5D

def lengthWidth : Nat := 8

def windowWidth : Nat := 4

end FlashImage.Lzma
