import FlashImage.Layout.Validation
import FlashImage.Proofs.Layout.Search
import Mathlib.Algebra.GroupWithZero.Nat

/-!
The layouts that pass validation are exactly the well-formed ones.

A check that goes through a list passes exactly if it passes at every entry. So each check is
characterised for one entry, and the characterisations are put together.
-/

set_option autoImplicit false
set_option relaxedAutoImplicit false

namespace FlashImage

/-- A name that stands for a file in any directory and never leads out of it. -/
def PlainName (name : String) : Prop :=
  name ≠ "" ∧ name ≠ "." ∧ name ≠ ".." ∧ '/' ∉ name.toList ∧ '\\' ∉ name.toList

theorem isFileName_iff {name : String} : isFileName name = true ↔ PlainName name := by
  simp [isFileName, PlainName, and_assoc]

theorem Container.allocation_eq_sum (regions : List Region) :
    allocation regions = (regions.map (·.size.toNat)).sum := by
  induction regions with
  | nil => rfl
  | cons r rest ih =>
    rw [List.map_cons, List.sum_cons, ← ih]
    rfl

namespace LayoutTree

/-- A region has a positive allocation of whole blocks that holds the container of its source. -/
structure RegionFits (t : LayoutTree) (r : Region) : Prop where
  pos : 0 < r.size.toNat
  aligned : t.blockSize.toNat ∣ r.size.toNat
  holds : ∀ child, r.source = .container child →
    ∃ c ∈ t.containers, c.name = child ∧ (c.regions.map (·.size.toNat)).sum ≤ r.size.toNat

/-- What a layout has to satisfy before anything is built from it. -/
structure WellFormed (t : LayoutTree) : Prop where
  blockSize_pos : 0 < t.blockSize.toNat
  containers_ne_nil : t.containers ≠ []
  plainName : ∀ c ∈ t.containers, PlainName c.name
  regions_ne_nil : ∀ c ∈ t.containers, c.regions ≠ []
  regions_distinct : ∀ c ∈ t.containers, (c.regions.map (·.name)).Nodup
  regionFits : ∀ c ∈ t.containers, ∀ r ∈ c.regions, t.RegionFits r
  acyclic : t.Acyclic

theorem WellFormed.plainName_of_names {t : LayoutTree} {α : Type} {entries : List (String × α)}
    (wellFormed : t.WellFormed) (names : entries.map (·.1) = t.names) :
    ∀ entry ∈ entries, PlainName entry.1 := by
  intro entry hentry
  have hname : entry.1 ∈ t.names := names ▸ List.mem_map_of_mem hentry
  obtain ⟨c, hc, heq⟩ := List.mem_map.1 hname
  exact heq ▸ wellFormed.plainName c hc

theorem exists_mem_iff_find? {t : LayoutTree} {name : String} {p : Container → Prop} :
    (∃ c ∈ t.containers, c.name = name ∧ p c) ↔ ∃ c, t.find? name = some c ∧ p c := by
  constructor
  · rintro ⟨c, hc, rfl, hp⟩
    exact ⟨c, find?_name hc, hp⟩
  · rintro ⟨c, hc, hp⟩
    exact ⟨c, mem_of_find? hc, name_of_find? hc, hp⟩

private theorem uint32_eq_zero_iff {n : UInt32} : n = 0 ↔ n.toNat = 0 := by
  rw [← UInt32.toNat_inj]
  rfl

private theorem regionFault?_eq_none_iff {t : LayoutTree} {seen : List String} {r : Region} :
    t.regionFault? seen r = none ↔ r.name ∉ seen ∧ t.RegionFits r := by
  have haligned : r.size % t.blockSize = 0 ↔ t.blockSize.toNat ∣ r.size.toNat := by
    rw [uint32_eq_zero_iff, UInt32.toNat_mod, Nat.dvd_iff_mod_eq_zero]
  constructor
  · intro h
    unfold regionFault? at h
    split at h
    · cases h
    rename_i hname
    split at h
    · cases h
    rename_i hsize
    split at h
    · cases h
    rename_i hblock
    refine ⟨hname, Nat.pos_of_ne_zero fun hzero => hsize (uint32_eq_zero_iff.2 hzero),
      haligned.1 (not_not.1 hblock), ?_⟩
    intro child hs
    rw [exists_mem_iff_find?]
    simp only [hs] at h
    split at h
    · cases h
    · rename_i c hc
      split at h
      · cases h
      · rename_i hle
        refine ⟨c, hc, ?_⟩
        rw [← Container.allocation_eq_sum]
        exact Nat.le_of_not_lt hle
  · rintro ⟨hname, hfits⟩
    have hsize : r.size ≠ 0 := fun hzero => hfits.pos.ne' (uint32_eq_zero_iff.1 hzero)
    rw [regionFault?, if_neg hname, if_neg hsize, if_neg (not_not.2 (haligned.2 hfits.aligned))]
    cases hs : r.source with
    | artifact artifact => rfl
    | container child =>
      obtain ⟨c, hc, hle⟩ := exists_mem_iff_find?.1 (hfits.holds child hs)
      rw [← Container.allocation_eq_sum] at hle
      simp only [hc]
      exact if_neg (Nat.not_lt.2 hle)

private theorem checkRegions_eq_ok_iff {t : LayoutTree} {container : String} {seen : List String}
    {regions : List Region} :
    t.checkRegions container seen regions = .ok () ↔
      (regions.map (·.name)).Nodup ∧ ∀ r ∈ regions, r.name ∉ seen ∧ t.RegionFits r := by
  induction regions generalizing seen with
  | nil => simp [checkRegions]
  | cons r rest ih =>
    cases hfault : t.regionFault? seen r with
    | some fault =>
      have hr : ¬ (r.name ∉ seen ∧ t.RegionFits r) := by
        rw [← regionFault?_eq_none_iff, hfault]
        exact Option.some_ne_none fault
      simp only [checkRegions, hfault, List.forall_mem_cons, hr, false_and, and_false, reduceCtorEq]
    | none =>
      have hr := regionFault?_eq_none_iff.1 hfault
      simp only [checkRegions, hfault, ih, List.map_cons, List.nodup_cons, List.mem_cons, not_or,
        List.mem_map, not_exists, not_and]
      constructor
      · rintro ⟨hdistinct, hrest⟩
        refine ⟨⟨fun x hx hxr => (hrest x hx).1.1 hxr, hdistinct⟩, ?_⟩
        rintro x (rfl | hx)
        · exact hr
        · exact ⟨(hrest x hx).1.2, (hrest x hx).2⟩
      · rintro ⟨⟨hnew, hdistinct⟩, hall⟩
        refine ⟨hdistinct, fun x hx => ?_⟩
        exact ⟨⟨hnew x hx, (hall x (.inr hx)).1⟩, (hall x (.inr hx)).2⟩

private theorem checkContainer_eq_ok_iff {t : LayoutTree} {c : Container} :
    t.checkContainer c = .ok () ↔
      PlainName c.name ∧ c.regions ≠ [] ∧ (c.regions.map (·.name)).Nodup ∧
        ∀ r ∈ c.regions, t.RegionFits r := by
  unfold checkContainer
  by_cases hname : isFileName c.name
  · by_cases hregions : c.regions = []
    · simp [hname, hregions]
    · simp [hname, hregions, checkRegions_eq_ok_iff, isFileName_iff.1 hname]
  · have hplain : ¬ PlainName c.name := fun h => hname (isFileName_iff.2 h)
    simp [hname, hplain]

private theorem checkContainers_eq_ok_iff {t : LayoutTree} {containers : List Container} :
    t.checkContainers containers = .ok () ↔ ∀ c ∈ containers, t.checkContainer c = .ok () := by
  induction containers with
  | nil => simp [checkContainers]
  | cons c rest ih =>
    cases hc : t.checkContainer c with
    | error e => simp [checkContainers, hc]
    | ok u => simp [checkContainers, hc, ih]

theorem validate_eq_ok_iff_checks {t : LayoutTree} :
    t.validate = .ok () ↔
      t.blockSize ≠ 0 ∧ t.containers ≠ [] ∧ t.checkContainers t.containers = .ok () ∧
        t.cycle? = none := by
  unfold validate
  by_cases hblock : t.blockSize = 0
  · simp [hblock]
  by_cases hcontainers : t.containers = []
  · simp [hblock, hcontainers]
  cases hcheck : t.checkContainers t.containers with
  | error e => simp [hblock, hcontainers]
  | ok u => cases t.cycle? <;> simp [hblock, hcontainers]

theorem WellFormed.of_validate {t : LayoutTree} (h : t.validate = .ok ()) : t.WellFormed := by
  obtain ⟨hblock, hcontainers, hcheck, hcycle⟩ := validate_eq_ok_iff_checks.1 h
  have hall : ∀ c ∈ t.containers, _ := fun c hc =>
    checkContainer_eq_ok_iff.1 (checkContainers_eq_ok_iff.1 hcheck c hc)
  exact {
    blockSize_pos := Nat.pos_of_ne_zero fun hzero => hblock (uint32_eq_zero_iff.2 hzero)
    containers_ne_nil := hcontainers
    plainName := fun c hc => (hall c hc).1
    regions_ne_nil := fun c hc => (hall c hc).2.1
    regions_distinct := fun c hc => (hall c hc).2.2.1
    regionFits := fun c hc => (hall c hc).2.2.2
    acyclic := (cycle?_eq_none_iff t).1 hcycle }

theorem WellFormed.validate {t : LayoutTree} (h : t.WellFormed) : t.validate = .ok () := by
  refine validate_eq_ok_iff_checks.2 ⟨?_, h.containers_ne_nil, ?_, ?_⟩
  · exact fun hzero => h.blockSize_pos.ne' (uint32_eq_zero_iff.1 hzero)
  · refine checkContainers_eq_ok_iff.2 fun c hc => checkContainer_eq_ok_iff.2 ?_
    exact ⟨h.plainName c hc, h.regions_ne_nil c hc, h.regions_distinct c hc, h.regionFits c hc⟩
  · exact (cycle?_eq_none_iff t).2 h.acyclic

/-- Validation accepts the well-formed layouts and no others. -/
theorem validate_eq_ok_iff_wellFormed (t : LayoutTree) : t.validate = .ok () ↔ t.WellFormed :=
  ⟨WellFormed.of_validate, WellFormed.validate⟩

end LayoutTree
end FlashImage
