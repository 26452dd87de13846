import FlashImage.Layout.Tree

/-!
The places of the regions of a container in which no region is left out.

The places follow one another from the first byte to the last. So the bytes at the places, one after
another, are those of the container, and every offset lies in one of the places.
-/

set_option autoImplicit false
set_option relaxedAutoImplicit false

namespace FlashImage

namespace Placement

def bytes (p : Placement) (out : Bytes) : Bytes := (out.drop p.offset).take p.region.size.toNat

/-- An offset lies in a place. -/
def Covers (p : Placement) (k : Nat) : Prop := p.offset ≤ k ∧ k < p.offset + p.region.size.toNat

theorem getElem?_bytes {p : Placement} {k : Nat} (hk : p.Covers k) (out : Bytes) :
    (p.bytes out)[k - p.offset]? = out[k]? := by
  obtain ⟨hlow, hhigh⟩ := hk
  rw [bytes, List.getElem?_take_of_lt (by omega), List.getElem?_drop, Nat.add_sub_cancel' hlow]

end Placement

namespace Container

private theorem flatten_placementsFrom {regions : List Region} {offset : Nat} {out : Bytes}
    (hlength : out.length = offset + allocation regions) :
    ((placementsFrom offset regions).map (·.bytes out)).flatten = out.drop offset := by
  induction regions generalizing offset with
  | nil =>
    have hend : out.length ≤ offset := Nat.le_of_eq hlength
    rw [List.drop_of_length_le hend]
    rfl
  | cons r rest ih =>
    have hrest : out.length = offset + r.size.toNat + allocation rest := by
      rw [hlength, Nat.add_assoc]
      rfl
    rw [placementsFrom, List.map_cons, List.flatten_cons, ih hrest, ← List.drop_drop]
    exact List.take_append_drop r.size.toNat (out.drop offset)

theorem flatten_placements {c : Container} {out : Bytes} (hlength : out.length = c.allocated) :
    (c.placements.map (·.bytes out)).flatten = out :=
  flatten_placementsFrom (hlength.trans (Nat.zero_add _).symm)

private theorem exists_covers_from {regions : List Region} {offset k : Nat} (hlow : offset ≤ k)
    (hhigh : k < offset + allocation regions) :
    ∃ p ∈ placementsFrom offset regions, p.Covers k := by
  induction regions generalizing offset with
  | nil => exact absurd hhigh (Nat.not_lt.2 hlow)
  | cons r rest ih =>
    by_cases hfirst : k < offset + r.size.toNat
    · exact ⟨⟨offset, r⟩, List.mem_cons_self, hlow, hfirst⟩
    · have hrest : k < offset + r.size.toNat + allocation rest := by
        rw [Nat.add_assoc]
        exact hhigh
      obtain ⟨p, hp, hcovers⟩ := ih (Nat.not_lt.1 hfirst) hrest
      exact ⟨p, List.mem_cons_of_mem _ hp, hcovers⟩

theorem region_mem_of_mem_placementsFrom {regions : List Region} {offset : Nat} {p : Placement}
    (hp : p ∈ placementsFrom offset regions) : p.region ∈ regions := by
  induction regions generalizing offset with
  | nil => cases hp
  | cons r rest ih =>
    rcases List.mem_cons.1 hp with rfl | hp
    · exact List.mem_cons_self
    · exact List.mem_cons_of_mem r (ih hp)

theorem exists_covers {c : Container} {k : Nat} (hk : k < c.allocated) :
    ∃ p ∈ c.placements, p.Covers k := by
  have hhigh : k < 0 + c.allocated := by
    rw [Nat.zero_add]
    exact hk
  exact exists_covers_from (Nat.zero_le k) hhigh

end Container
end FlashImage
