import FlashImage.Layout.Tree
import FlashImage.Region.Placement
import Mathlib.Algebra.GroupWithZero.Nat

/-!
Where the regions of a container stand in its bytes, and what they hold there.

The places of a layout leave room for every region. In the bytes of a container, a region starts at
its place less the sizes of the regions before it that are left out, so the slots of the others
stand side by side.
-/

set_option autoImplicit false
set_option relaxedAutoImplicit false

namespace FlashImage

/-- The bytes of a slot hold the content on the side of its position, and padding elsewhere. -/
structure Filled (pad : UInt8) (r : Region) (content bytes : Bytes) : Prop where
  length : bytes.length = r.size.toNat
  head : r.position = .head → ∃ n, bytes = List.replicate n pad ++ content
  tail : r.position = .tail → ∃ n, bytes = content ++ List.replicate n pad
  exact : r.policy = .noOp → bytes = content

private theorem InsertPosition.length_fill {position : InsertPosition} {pad : UInt8} {length : Nat}
    {content : Bytes} (h : content.length ≤ length) :
    (position.fill pad length content).length = length := by
  cases position with
  | head =>
    simp only [fill, List.length_append, List.length_replicate]
    omega
  | tail =>
    simp only [fill, List.length_append, List.length_replicate]
    omega

theorem Region.filled_of_place {container : String} {r : Region} {content bytes : Bytes}
    {pad : UInt8} (h : r.place container content pad = .ok bytes) : Filled pad r content bytes := by
  have hfill (hle : content.length ≤ r.size.toNat) (hpolicy : r.policy ≠ .noOp)
      (heq : r.position.fill pad r.size.toNat content = bytes) : Filled pad r content bytes := by
    subst heq
    refine ⟨InsertPosition.length_fill hle, ?_, ?_, fun hexact => absurd hexact hpolicy⟩
    · intro hposition
      exact ⟨r.size.toNat - content.length, by rw [hposition, InsertPosition.fill]⟩
    · intro hposition
      exact ⟨r.size.toNat - content.length, by rw [hposition, InsertPosition.fill]⟩
  unfold place at h
  cases hpolicy : r.policy with
  | noOp =>
    simp only [hpolicy] at h
    split at h
    · rename_i hlength
      cases h
      exact ⟨hlength, fun _ => ⟨0, rfl⟩, fun _ => ⟨0, by simp⟩, fun _ => rfl⟩
    · cases h
  | pad =>
    simp only [hpolicy] at h
    split at h
    · rename_i hle
      exact hfill hle (by simp [hpolicy]) (Except.ok.inj h)
    · cases h
  | ignore =>
    simp only [hpolicy] at h
    split at h
    · rename_i hle
      exact hfill hle (by simp [hpolicy]) (Except.ok.inj h)
    · cases h

/-- A region with content, and where its bytes start in those of its container. -/
structure Slot where
  start : Nat
  region : Region
  content : Bytes
  deriving DecidableEq, Repr

namespace Slot

def stop (s : Slot) : Nat := s.start + s.region.size.toNat

def bytes (s : Slot) (out : Bytes) : Bytes := (out.drop s.start).take s.region.size.toNat

end Slot

namespace Container

def leftOut (regions : List Region) (contents : List (Option Bytes)) : Nat :=
  (((regions.zip contents).filter (·.2.isNone)).map (·.1.size.toNat)).sum

/-- The slots at places, if the regions that have been left out before them have some size. A slot
starts at its place less the sizes of all regions before it that are left out. -/
def slotsAt : (before : Nat) → List Placement → List (Option Bytes) → List Slot
  | before, p :: places, none :: contents =>
    slotsAt (before + p.region.size.toNat) places contents
  | before, p :: places, some content :: contents =>
    ⟨p.offset - before, p.region, content⟩ :: slotsAt before places contents
  | _, _, _ => []

/-- The slots of a container in the order of its regions, given the contents of all of them. -/
def slots (c : Container) (contents : List (Option Bytes)) : List Slot :=
  slotsAt 0 c.placements contents

theorem leftOut_cons_none (r : Region) (regions : List Region) (contents : List (Option Bytes)) :
    leftOut (r :: regions) (none :: contents) = r.size.toNat + leftOut regions contents := by
  simp [leftOut]

theorem leftOut_cons_some (r : Region) (regions : List Region) (content : Bytes)
    (contents : List (Option Bytes)) :
    leftOut (r :: regions) (some content :: contents) = leftOut regions contents := by
  simp [leftOut]

private theorem region_mem_of_mem_slotsAt {s : Slot} {before offset : Nat} {regions : List Region}
    {contents : List (Option Bytes)}
    (hs : s ∈ slotsAt before (placementsFrom offset regions) contents) : s.region ∈ regions := by
  induction regions generalizing before offset contents with
  | nil => simp [placementsFrom, slotsAt] at hs
  | cons r rest ih =>
    cases contents with
    | nil => simp [placementsFrom, slotsAt] at hs
    | cons content contents =>
      cases content with
      | none => exact List.mem_cons_of_mem r (ih hs)
      | some content =>
        rcases List.mem_cons.1 hs with rfl | hs
        · exact List.mem_cons_self
        · exact List.mem_cons_of_mem r (ih hs)

end Container

/-- Slots that stand side by side from an offset on, each filled with its content, and their bytes
together. -/
inductive Tiled (pad : UInt8) : Nat → List Slot → Bytes → Prop
  | nil {start : Nat} : Tiled pad start [] []
  | cons {s : Slot} {slots : List Slot} {first others : Bytes}
      (filled : Filled pad s.region s.content first) (rest : Tiled pad s.stop slots others) :
      Tiled pad s.start (s :: slots) (first ++ others)

namespace Tiled

variable {pad : UInt8} {start : Nat} {slots : List Slot} {out : Bytes}

theorem bounds (h : Tiled pad start slots out) {s : Slot} (hs : s ∈ slots) :
    start ≤ s.start ∧ s.stop ≤ start + out.length := by
  induction h with
  | nil => cases hs
  | @cons t slots first others filled rest ih =>
    have hlength := filled.length
    have hstop : t.stop = t.start + t.region.size.toNat := rfl
    rw [List.length_append]
    rcases List.mem_cons.1 hs with rfl | hs
    · omega
    · obtain ⟨hlow, hhigh⟩ := ih hs
      omega

private theorem ordered (h : Tiled pad start slots out) : slots.Pairwise (·.stop ≤ ·.start) := by
  induction h with
  | nil => exact .nil
  | cons _ rest ih => exact .cons (fun _ hs => (rest.bounds hs).1) ih

private theorem covered (h : Tiled pad start slots out) {k : Nat} (hk : k < out.length) :
    ∃ s ∈ slots, s.start ≤ start + k ∧ start + k < s.stop := by
  induction h generalizing k with
  | nil => cases hk
  | @cons t slots first others filled rest ih =>
    have hlength := filled.length
    have hstop : t.stop = t.start + t.region.size.toNat := rfl
    rw [List.length_append] at hk
    by_cases hfirst : k < first.length
    · exact ⟨t, List.mem_cons_self, by omega, by omega⟩
    · obtain ⟨s, hs, hlow, hhigh⟩ := ih (k := k - first.length) (by omega)
      exact ⟨s, List.mem_cons_of_mem t hs, by omega, by omega⟩

theorem filled (h : Tiled pad start slots out) {s : Slot} (hs : s ∈ slots) :
    Filled pad s.region s.content ((out.drop (s.start - start)).take s.region.size.toNat) := by
  induction h with
  | nil => cases hs
  | @cons t slots first others filled rest ih =>
    have hlength := filled.length
    have hstop : t.stop = t.start + t.region.size.toNat := rfl
    rcases List.mem_cons.1 hs with rfl | hs
    · rw [Nat.sub_self, List.drop_zero, ← hlength, List.take_left]
      exact filled
    · have hlow := (rest.bounds hs).1
      have hdrop : (first ++ others).drop (s.start - t.start) = others.drop (s.start - t.stop) := by
        rw [List.drop_append, List.drop_of_length_le (by omega), List.nil_append]
        congr 1
        omega
      rw [hdrop]
      exact ih hs

theorem aligned {block : Nat} (h : Tiled pad start slots out) (hstart : block ∣ start)
    (hsize : ∀ s ∈ slots, block ∣ s.region.size.toNat) :
    (∀ s ∈ slots, block ∣ s.start) ∧ block ∣ out.length := by
  induction h with
  | nil => exact ⟨fun _ hs => (nomatch hs), by simp⟩
  | @cons t slots first others filled rest ih =>
    have ht : block ∣ t.region.size.toNat := hsize t List.mem_cons_self
    obtain ⟨hrest, hothers⟩ :=
      ih (Nat.dvd_add hstart ht) fun s hs => hsize s (List.mem_cons_of_mem t hs)
    refine ⟨List.forall_mem_cons.2 ⟨hstart, hrest⟩, ?_⟩
    rw [List.length_append, filled.length]
    exact Nat.dvd_add ht hothers

end Tiled

/-- What the bytes of a container are, given the contents of its regions: the slots, one after
another and nothing else, all of them whole blocks. -/
structure Composition (pad : UInt8) (block : Nat) (c : Container)
    (contents : List (Option Bytes)) (out : Bytes) : Prop where
  length : out.length + Container.leftOut c.regions contents = c.allocated
  within : ∀ s ∈ c.slots contents, s.stop ≤ out.length
  filled : ∀ s ∈ c.slots contents, Filled pad s.region s.content (s.bytes out)
  ordered : (c.slots contents).Pairwise (·.stop ≤ ·.start)
  covered : ∀ k < out.length, ∃ s ∈ c.slots contents, s.start ≤ k ∧ k < s.stop
  wholeBlocks : block ∣ out.length
  slotsWholeBlocks : ∀ s ∈ c.slots contents, block ∣ s.start ∧ block ∣ s.region.size.toNat

/-- Slots that stand side by side from the beginning on make up the bytes of a container. -/
theorem Tiled.composition {pad : UInt8} {block : Nat} {c : Container}
    {contents : List (Option Bytes)} {out : Bytes} (h : Tiled pad 0 (c.slots contents) out)
    (length : out.length + Container.leftOut c.regions contents = c.allocated)
    (aligned : ∀ r ∈ c.regions, block ∣ r.size.toNat) : Composition pad block c contents out := by
  have hsize : ∀ s ∈ c.slots contents, block ∣ s.region.size.toNat := fun s hs =>
    aligned s.region (Container.region_mem_of_mem_slotsAt hs)
  obtain ⟨hstart, hblocks⟩ := h.aligned (Nat.dvd_zero block) hsize
  refine ⟨length, ?_, ?_, h.ordered, ?_, hblocks, fun s hs => ⟨hstart s hs, hsize s hs⟩⟩
  · intro s hs
    simpa using (h.bounds hs).2
  · intro s hs
    exact h.filled hs
  · intro k hk
    simpa using h.covered hk

end FlashImage
