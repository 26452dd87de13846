import FlashImage.Proofs.Stitch.Cause
import FlashImage.Proofs.Stitch.Output

/-!
Containers fit in the regions that embed them.

Validation compares sizes before anything is built. The bytes of a container have the size that it
is allocated less the sizes of its regions that are left out, whatever these embed in turn. So they
are never too long for a region that holds the allocation, and they fill it exactly if nothing is
left out and nothing is spared.
-/

set_option autoImplicit false
set_option relaxedAutoImplicit false

namespace FlashImage

/-- An error says that a content does not fit a region of a container. -/
def Error.Refuses (e : Error) (c : Container) (r : Region) : Prop :=
  ∃ actual allocated policy, e = .sizeViolation c.name r.name actual allocated policy

namespace Region

variable {container : String} {r : Region} {content : Bytes} {pad : UInt8}

theorem exists_place_of_le (policy : r.policy ≠ .noOp) (h : content.length ≤ r.size.toNat) :
    ∃ bytes, r.place container content pad = .ok bytes := by
  refine ⟨r.position.fill pad r.size.toNat content, ?_⟩
  unfold place
  cases hpolicy : r.policy with
  | noOp => exact absurd hpolicy policy
  | pad | ignore => exact if_pos h

theorem exists_place_of_eq (h : content.length = r.size.toNat) :
    ∃ bytes, r.place container content pad = .ok bytes := by
  cases hpolicy : r.policy with
  | noOp =>
    refine ⟨content, ?_⟩
    simp only [place, hpolicy]
    exact if_pos h
  | pad => exact exists_place_of_le (by simp [hpolicy]) (Nat.le_of_eq h)
  | ignore => exact exists_place_of_le (by simp [hpolicy]) (Nat.le_of_eq h)

private theorem place_eq_error_iff (policy : r.policy = .noOp) :
    r.place container content pad = .error (r.sizeViolation container content) ↔
      content.length ≠ r.size.toNat := by
  constructor
  · intro h hlength
    obtain ⟨bytes, htaken⟩ : ∃ bytes, r.place container content pad = .ok bytes :=
      exists_place_of_eq hlength
    cases htaken.symm.trans h
  · intro h
    simp only [place, policy]
    exact if_neg h

def isLeftOut (store : ArtifactStore) (fs : Files) (r : Region) : Bool :=
  match r.policy, r.source with
  | .ignore, .artifact artifact =>
    match store.load fs artifact with
    | .ok none => true
    | _ => false
  | _, _ => false

private theorem isLeftOut_iff {store : ArtifactStore} {fs : Files} :
    r.isLeftOut store fs = true ↔
      r.policy = .ignore ∧ ∃ artifact, r.source = .artifact artifact ∧
        store.load fs artifact = .ok none := by
  unfold isLeftOut
  split
  · rename_i artifact hpolicy hsource
    cases hload : store.load fs artifact with
    | error e => simp [hpolicy, hsource, hload]
    | ok found => cases found <;> simp [hpolicy, hsource, hload]
  · rename_i hother
    simp only [Bool.false_eq_true, false_iff, not_and, not_exists]
    exact fun hpolicy artifact hsource => absurd hsource (hother artifact hpolicy)

end Region

/-- The sizes of the regions of a container that are left out, together. -/
def Container.skipped (store : ArtifactStore) (fs : Files) (c : Container) : Nat :=
  ((c.regions.filter (·.isLeftOut store fs)).map (·.size.toNat)).sum

namespace LayoutTree

private theorem WellFormed.eq_of_names {t : LayoutTree} (wellFormed : t.WellFormed)
    {c d : Container}
    (hc : c ∈ t.containers) (hd : d ∈ t.containers) (containers : c.name = d.name) {r s : Region}
    (hr : r ∈ c.regions) (hs : s ∈ d.regions) (regions : r.name = s.name) : c = d ∧ r = s := by
  obtain rfl : c = d := List.inj_on_of_nodup_map t.distinct hc hd containers
  exact ⟨rfl, List.inj_on_of_nodup_map (wellFormed.regions_distinct c hc) hr hs regions⟩

end LayoutTree

namespace StitchJob

variable {job : StitchJob} {files : Files → Prop} {fs : Files} {m m' : StitchMemory}
  {w w' : Workspace} {e : Error}

private theorem Resolved.isNone_eq {r : Region} {content : Option Bytes}
    (h : job.Resolved (· = fs) m r content) : content.isNone = r.isLeftOut job.store fs := by
  cases h with
  | leftOut source policy met load =>
    exact (Region.isLeftOut_iff.2 ⟨policy, _, source, met ▸ load⟩).symm
  | artifact source met load =>
    refine (Bool.eq_false_iff.2 fun hleftOut => ?_).symm
    obtain ⟨-, artifact, source', hload⟩ := Region.isLeftOut_iff.1 hleftOut
    cases source.symm.trans source'
    rw [met, hload] at load
    cases load
  | container source =>
    refine (Bool.eq_false_iff.2 fun hleftOut => ?_).symm
    obtain ⟨-, artifact, source', -⟩ := Region.isLeftOut_iff.1 hleftOut
    cases source.symm.trans source'

private theorem Assembled.leftOut_eq {container : String} {regions : List Region}
    {contents : List (Option Bytes)} {data : Bytes}
    (h : job.Assembled (· = fs) m container regions contents data) :
    Container.leftOut regions contents =
      ((regions.filter (·.isLeftOut job.store fs)).map (·.size.toNat)).sum := by
  induction h with
  | nil => rfl
  | @cons r content regions contents _ _ resolved _ _ ih =>
    have hnone := resolved.isNone_eq
    cases content with
    | none =>
      rw [Container.leftOut_cons_none, ih, List.filter_cons_of_pos hnone.symm, List.map_cons,
        List.sum_cons]
    | some content =>
      have hkept : ¬ r.isLeftOut job.store fs = true := by simp [← hnone]
      rw [Container.leftOut_cons_some, ih, List.filter_cons_of_neg hkept]

theorem Sound.assembled (sound : job.Sound files m w) {c : Container}
    (hc : c ∈ job.tree.containers) {data : Bytes} (built : m.built? c.name = some data) :
    ∃ contents, job.Assembled files m c.name c.regions contents data := by
  obtain ⟨d, contents, hd, hassembled⟩ := sound.built _ _ built
  obtain rfl : c = d := Option.some.inj ((LayoutTree.find?_name hc).symm.trans hd)
  exact ⟨contents, hassembled⟩

private theorem Sound.length_add_skipped (sound : job.Sound (· = fs) m w) {c : Container}
    (hc : c ∈ job.tree.containers) {data : Bytes} (built : m.built? c.name = some data) :
    data.length + c.skipped job.store fs = c.allocated := by
  obtain ⟨contents, hassembled⟩ := sound.assembled hc built
  rw [Container.skipped, ← hassembled.leftOut_eq]
  exact hassembled.length_add_leftOut

theorem Sound.length_le (sound : job.Sound files m w) (wellFormed : job.tree.WellFormed)
    {c : Container} (hc : c ∈ job.tree.containers) {r : Region} (hr : r ∈ c.regions)
    {child : String} (source : r.source = .container child) {data : Bytes}
    (built : m.built? child = some data) : data.length ≤ r.size.toNat := by
  obtain ⟨d, hd, rfl, hholds⟩ := (wellFormed.regionFits c hc r hr).holds child source
  obtain ⟨contents, hassembled⟩ := sound.assembled hd built
  calc data.length ≤ d.allocated := Nat.le.intro hassembled.length_add_leftOut
    _ = (d.regions.map (·.size.toNat)).sum := Container.allocation_eq_sum d.regions
    _ ≤ r.size.toNat := hholds

theorem Cause.of_refuses (wellFormed : job.tree.WellFormed) {root : String}
    {calls : Codec → Bytes → Workspace → Prop}
    (cause : job.Cause files root calls w e) {c : Container} (hc : c ∈ job.tree.containers) {r : Region}
    (hr : r ∈ c.regions) {child : String} (source : r.source = .container child)
    (codec : r.codec = .none) (refuses : e.Refuses c r) :
    job.CompressorFails calls w e ∨ ∃ data m₁ w₁, job.Sound files m₁ w₁ ∧ m₁.built? child = some data ∧
      r.place c.name data job.pad = .error e := by
  obtain ⟨actual, allocated, policy, rfl⟩ := refuses
  generalize he : Error.sizeViolation c.name r.name actual allocated policy = e at cause ⊢
  cases cause with
  | @tooLarge d s content m₁ w₁ hd hs sound resolved place =>
    right
    obtain ⟨hcontainers, hregions, -⟩ := Error.sizeViolation.inj he
    obtain ⟨rfl, rfl⟩ := wellFormed.eq_of_names hc hd hcontainers hr hs hregions
    exact ⟨content, m₁, w₁, sound, resolved.built? source codec, place⟩
  | compressor fails => exact .inl fails
  | cycle | unknown | zeroSize | unread | missing => cases he

/-- How a region of a container takes another container while the files stay. If it need not be
filled, it takes it; if it has to be filled, it refuses it exactly if the sizes differ, less what is
left out. An error that says that it was refused has no other cause, unless the compressor made it
up. -/
structure ChildFits (job : StitchJob) (fs : Files) (m : StitchMemory) (w : Workspace)
    (c : Container) (r : Region) (d : Container) : Prop where
  taken : ∀ raw m' w', job.stitch d.name m w = ((.ok raw, m'), w') → r.policy ≠ .noOp →
    ∃ bytes, r.place c.name raw job.pad = .ok bytes
  exact : ∀ raw m' w', job.stitch d.name m w = ((.ok raw, m'), w') → r.policy = .noOp →
    (r.place c.name raw job.pad = .error (r.sizeViolation c.name raw) ↔
      d.allocated - d.skipped job.store fs ≠ r.size.toNat)
  refused : ∀ name e m' w', job.stitch name m w = ((.error e, m'), w') → e.Refuses c r →
    job.CompressorFails (job.callsOf name m w) w' e ∨
      r.policy = .noOp ∧ d.allocated - d.skipped job.store fs ≠ r.size.toNat
  refusedAll : ∀ e m' w', job.stitchAll m w = ((.error e, m'), w') → e.Refuses c r →
    job.CompressorFails (job.callsOfAll m w) w' e ∨
      r.policy = .noOp ∧ d.allocated - d.skipped job.store fs ≠ r.size.toNat

/-- In a layout that has been validated, containers fit where they are embedded uncompressed. -/
theorem childFits_of_validate (valid : job.tree.validate = .ok ()) (keeps : job.Keeps (· = fs))
    (reachable : job.Reachable (· = fs) m w) {c : Container} (hc : c ∈ job.tree.containers)
    {r : Region} (hr : r ∈ c.regions) {child : String} (source : r.source = .container child)
    (codec : r.codec = .none) :
    ∃ d ∈ job.tree.containers, d.name = child ∧ job.ChildFits fs m w c r d := by
  have wellFormed := LayoutTree.WellFormed.of_validate valid
  have hsound := sound_of_reachable keeps reachable
  obtain ⟨d, hd, rfl, -⟩ := (wellFormed.regionFits c hc r hr).holds child source
  -- A content that has been built is short enough, and its length is known.
  have hbuilt {raw : Bytes} {m₁ : StitchMemory} {w₁ : Workspace}
      (sound : job.Sound (· = fs) m₁ w₁) (built : m₁.built? d.name = some raw) :
      raw.length ≤ r.size.toNat ∧ raw.length = d.allocated - d.skipped job.store fs :=
    ⟨sound.length_le wellFormed hc hr source built,
      Nat.eq_sub_of_add_eq (sound.length_add_skipped hd built)⟩
  have hstitched {raw : Bytes} {m' : StitchMemory} {w' : Workspace}
      (call : job.stitch d.name m w = ((.ok raw, m'), w')) :
      raw.length ≤ r.size.toNat ∧ raw.length = d.allocated - d.skipped job.store fs := by
    obtain ⟨sound, hdone⟩ := stitchRun_sound keeps (stitchRun call) hsound
    exact hbuilt sound (hdone raw rfl)
  have hrefused {root : String} {calls : Codec → Bytes → Workspace → Prop} {e : Error}
      {w' : Workspace} (cause : job.Cause (· = fs) root calls w' e)
      (refuses : e.Refuses c r) : job.CompressorFails calls w' e ∨
        r.policy = .noOp ∧ d.allocated - d.skipped job.store fs ≠ r.size.toNat := by
    refine (cause.of_refuses wellFormed hc hr source codec refuses).imp_right ?_
    rintro ⟨raw, m₁, w₁, sound, built, place⟩
    obtain ⟨hle, hlength⟩ := hbuilt sound built
    have hpolicy : r.policy = .noOp := by
      by_contra policy
      obtain ⟨bytes, htaken⟩ := Region.exists_place_of_le policy hle
      rw [htaken] at place
      cases place
    obtain rfl := Region.eq_sizeViolation_of_place place
    exact ⟨hpolicy, hlength ▸ (Region.place_eq_error_iff hpolicy).1 place⟩
  refine ⟨d, hd, rfl, ?_, ?_, ?_, ?_⟩
  · intro raw m' w' call policy
    exact Region.exists_place_of_le policy (hstitched call).1
  · intro raw m' w' call policy
    rw [Region.place_eq_error_iff policy, (hstitched call).2]
  · intro name e m' w' call
    exact hrefused (cause_of_stitch keeps hsound call)
  · intro e m' w' call
    obtain ⟨name, -, cause⟩ := cause_of_stitchAll keeps hsound call
    exact hrefused cause

end StitchJob
end FlashImage
