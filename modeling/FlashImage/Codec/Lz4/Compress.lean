import FlashImage.Codec.Lz4.Block

/-!
Compression into the LZ4 block format.

A table holds, for each hash of the bytes at a position, the last position that was looked at with
that hash. The search goes forward from the end of the last copy, in steps that grow as it fails,
until the position in the table is near enough and starts with the same four bytes. The copy found
is then widened to both sides.
-/

set_option autoImplicit false
set_option relaxedAutoImplicit false

namespace FlashImage.Lz4

def tableSize : Nat := 4096

def maxDistance : Nat := 65535

/-- No copy starts in this many bytes at the end of the data. -/
def searchMargin : Nat := 12

def copyMargin : Nat := 6

/-- Data of fewer bytes than this is stored as literals. -/
def minLength : Nat := 13

def word32 (d : Array UInt8) (p : Nat) : UInt32 :=
  (d.getD p 0).toUInt32 ||| ((d.getD (p + 1) 0).toUInt32 <<< 8) |||
    ((d.getD (p + 2) 0).toUInt32 <<< 16) ||| ((d.getD (p + 3) 0).toUInt32 <<< 24)

/-- The table entry for a position: a hash of four bytes in short data, of five in long data. -/
def slot (d : Array UInt8) (p : Nat) : Nat :=
  if d.size < 65535 then ((word32 d p * 2654435761) >>> 20).toNat
  else
    let five := (word32 d p).toUInt64 ||| ((d.getD (p + 4) 0).toUInt64 <<< 32)
    (((five <<< 24) * 889523592379) >>> 52).toNat

def sameWord (d : Array UInt8) (p q : Nat) : Bool :=
  d.getD p 0 == d.getD q 0 && d.getD (p + 1) 0 == d.getD (q + 1) 0 &&
    d.getD (p + 2) 0 == d.getD (q + 2) 0 && d.getD (p + 3) 0 == d.getD (q + 3) 0

structure Match where
  target : Nat
  source : Nat
  deriving DecidableEq, Repr

/-- Searches for a match from a position on, entering every position that it looks at. After each
32 failures the step grows by one. -/
def search (d : Array UInt8) (table : Array Nat) (failures cur : Nat) :
    Option (Match × Array Nat) :=
  if d.size < cur + searchMargin then none
  else
    let entry := slot d cur
    let candidate := table.getD entry 0
    let table := table.setIfInBounds entry cur
    if cur - candidate ≤ maxDistance ∧ sameWord d candidate cur then some (⟨cur, candidate⟩, table)
    else search d table (failures + 1) (cur + (1 + failures / 32))
termination_by d.size - cur
decreasing_by simp only [searchMargin] at *; omega

/-- Widens a match towards the start, but not beyond `limit`. -/
def widenBack (d : Array UInt8) (limit : Nat) : (target source : Nat) → Match
  | target, 0 => ⟨target, 0⟩
  | target, source + 1 =>
    if limit < target ∧ d.getD (target - 1) 0 = d.getD source 0 then
      widenBack d limit (target - 1) source
    else ⟨target, source + 1⟩

def commonLength (d : Array UInt8) (target source count : Nat) : Nat :=
  if target + copyMargin < d.size ∧ d.getD target 0 = d.getD source 0 then
    commonLength d (target + 1) (source + 1) (count + 1)
  else count
termination_by d.size - target
decreasing_by simp only [copyMargin] at *; omega

theorem target_of_search {d : Array UInt8} {table table' : Array Nat}
    {failures cur : Nat} {m : Match} (h : search d table failures cur = some (m, table')) :
    cur ≤ m.target ∧ m.target + searchMargin ≤ d.size := by
  fun_induction search d table failures cur with
  | case1 => simp at h
  | case2 =>
    simp only [Option.some.injEq, Prod.mk.injEq] at h
    rw [← h.1]
    simp only
    omega
  | case3 _ _ _ _ _ _ _ _ ih =>
    have := ih h
    omega

private theorem target_of_widenBack (d : Array UInt8) {limit target : Nat} (source : Nat)
    (h : limit ≤ target) : limit ≤ (widenBack d limit target source).target := by
  induction source generalizing target with
  | zero => simpa [widenBack] using h
  | succ s ih =>
    rw [widenBack]
    split
    · next hc => exact ih (by omega)
    · exact h

/-- The sequences for the data from `lit` on, and where the literals at the end start. -/
def sequencesFrom (d : Array UInt8) (table : Array Nat) (lit cur : Nat) (h : lit ≤ cur)
    (found : Array Sequence) : Array Sequence × Nat :=
  match hs : search d table 0 cur with
  | none => (found, lit)
  | some (m, table) =>
    let start := widenBack d lit m.target m.source
    let extra := commonLength d (start.target + minCopy) (start.source + minCopy) 0
    let stop := start.target + minCopy + extra
    have hm := target_of_search hs
    have ht : lit ≤ start.target := target_of_widenBack d m.source (by omega)
    have : lit < d.size ∧ lit < stop := by simp only [minCopy, searchMargin, stop] at *; omega
    let literals := (d.extract lit start.target).toList
    let table := table.setIfInBounds (slot d (stop - 2)) (stop - 2)
    sequencesFrom d table stop stop (Nat.le_refl stop)
      (found.push ⟨literals, start.target - start.source, extra⟩)
termination_by d.size - lit
decreasing_by exact Nat.sub_lt_sub_left this.1 this.2

def Block.ofData (d : Array UInt8) : Block :=
  if d.size < minLength then ⟨[], d.toList⟩
  else
    let table := (Array.replicate tableSize 0).setIfInBounds (slot d 0) 0
    let (sequences, lit) := sequencesFrom d table 0 1 (Nat.zero_le 1) #[]
    ⟨sequences.toList, (d.extract lit d.size).toList⟩

def compress (raw : Bytes) : Bytes := (Block.ofData raw.toArray).bytes

end FlashImage.Lz4
