import FlashImage.Bytes

/-!
The LZ4 block format.

A block is a list of sequences, each of some literal bytes and a copy of earlier output, and the
literal bytes at its end. `Block.bytes` writes a block, `Block.parse` reads it back and
`Block.expand` carries it out.
-/

set_option autoImplicit false
set_option relaxedAutoImplicit false

namespace FlashImage.Lz4

/-- Literal bytes and a copy of `extra + 4` bytes that start `distance` bytes back. -/
structure Sequence where
  literals : Bytes
  distance : Nat
  extra : Nat
  deriving DecidableEq, Repr

structure Block where
  sequences : List Sequence
  last : Bytes
  deriving DecidableEq, Repr

def minCopy : Nat := 4

/-- The bytes that a length needs beyond the half byte of its token. -/
def extension (length : Nat) : Bytes :=
  if length < 15 then []
  else List.replicate ((length - 15) / 255) 255 ++ [UInt8.ofNat ((length - 15) % 255)]

/-- The byte that opens a sequence: two lengths, each cut off at 15. -/
def token (literals extra : Nat) : UInt8 := UInt8.ofNat (min literals 15 * 16 + min extra 15)

def Sequence.bytes (s : Sequence) : Bytes :=
  token s.literals.length s.extra :: (extension s.literals.length ++ s.literals ++
    Bytes.littleEndian 2 s.distance ++ extension s.extra)

def lastBytes (literals : Bytes) : Bytes :=
  token literals.length 0 :: (extension literals.length ++ literals)

def Block.bytes (b : Block) : Bytes := b.sequences.flatMap Sequence.bytes ++ lastBytes b.last

/-- Reads the bytes that a length has beyond its half byte, adding them to it. -/
def readExtension : Nat → Bytes → Option (Nat × Bytes)
  | _, [] => none
  | n, b :: rest => if b = 255 then readExtension (n + 255) rest else some (n + b.toNat, rest)

def readLength (half : Nat) (input : Bytes) : Option (Nat × Bytes) :=
  if half < 15 then some (half, input) else readExtension 15 input

def readLiterals (half : Nat) (input : Bytes) : Option (Bytes × Bytes) :=
  match readLength half input with
  | none => none
  | some (n, rest) => if n ≤ rest.length then some (rest.take n, rest.drop n) else none

def readCopy (half : Nat) : Bytes → Option (Nat × Nat × Bytes)
  | low :: high :: rest =>
    (readLength half rest).map fun (extra, rest) => (Bytes.toNat [low, high], extra, rest)
  | _ => none

private theorem length_of_readExtension {n m : Nat} {input rest : Bytes}
    (h : readExtension n input = some (m, rest)) : rest.length ≤ input.length := by
  induction input generalizing n with
  | nil => simp [readExtension] at h
  | cons b tail ih =>
    rw [readExtension] at h
    split at h
    · exact Nat.le_succ_of_le (ih h)
    · simp only [Option.some.injEq, Prod.mk.injEq] at h
      simp [← h.2]

private theorem length_of_readLength {half m : Nat} {input rest : Bytes}
    (h : readLength half input = some (m, rest)) : rest.length ≤ input.length := by
  rw [readLength] at h
  split at h
  · simp only [Option.some.injEq, Prod.mk.injEq] at h
    simp [← h.2]
  · exact length_of_readExtension h

private theorem length_of_readLiterals {half : Nat} {input literals rest : Bytes}
    (h : readLiterals half input = some (literals, rest)) : rest.length ≤ input.length := by
  rw [readLiterals] at h
  split at h
  · simp at h
  · next n tail hl =>
    split at h
    · simp only [Option.some.injEq, Prod.mk.injEq] at h
      have := length_of_readLength hl
      simp only [← h.2, List.length_drop]
      omega
    · simp at h

private theorem length_of_readCopy {half distance extra : Nat} {input rest : Bytes}
    (h : readCopy half input = some (distance, extra, rest)) : rest.length ≤ input.length := by
  unfold readCopy at h
  split at h
  · next low high tail =>
    obtain ⟨⟨e, r⟩, hl, hr⟩ := Option.map_eq_some_iff.1 h
    simp only [Prod.mk.injEq] at hr
    have := length_of_readLength hl
    simp only [← hr.2.2, List.length_cons]
    omega
  · simp at h

def Block.parse : Bytes → Option Block
  | [] => none
  | t :: input =>
    match hl : readLiterals (t.toNat / 16) input with
    | none => none
    | some (literals, []) => some ⟨[], literals⟩
    | some (literals, b :: rest) =>
      match hc : readCopy (t.toNat % 16) (b :: rest) with
      | none => none
      | some (distance, extra, rest) =>
        have : rest.length < input.length + 1 := by
          have := length_of_readLiterals hl
          have := length_of_readCopy hc
          simp only [List.length_cons] at *
          omega
        (Block.parse rest).map fun block =>
          ⟨⟨literals, distance, extra⟩ :: block.sequences, block.last⟩
termination_by input => input.length

/-- Copies `count` bytes one after another from the output itself, so that a copy may overlap its
own source. The source starts before the end of the output and not before its start. -/
def copyBack (distance : Nat) : Nat → Array UInt8 → Option (Array UInt8)
  | 0, out => some out
  | count + 1, out =>
    if h : 0 < distance ∧ distance ≤ out.size then
      have : out.size - distance < out.size := by omega
      copyBack distance count (out.push out[out.size - distance])
    else none

def expandSequences : List Sequence → Array UInt8 → Option (Array UInt8)
  | [], out => some out
  | s :: rest, out =>
    match copyBack s.distance (s.extra + minCopy) (out ++ s.literals) with
    | none => none
    | some out => expandSequences rest out

def Block.expand (b : Block) : Option Bytes :=
  (expandSequences b.sequences #[]).map fun out => out.toList ++ b.last

def decompress (input : Bytes) : Option Bytes := (Block.parse input).bind Block.expand

end FlashImage.Lz4
