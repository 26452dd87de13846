import FlashImage.Proofs.Board.Plan
import FlashImage.Proofs.Stitch.Fit

/-!
The containers of a board fit where its image embeds them, whatever they are made of.

No region of a board is left out, so its containers have the sizes that they are allocated. The
areas of a redundant board are padded, and the first stage of a simple one is allocated its own
size.
-/

set_option autoImplicit false
set_option relaxedAutoImplicit false

namespace FlashImage

namespace StitchJob

variable {fs : Files} {e : Error}

private theorem of_checkArtifacts_error {store : ArtifactStore} {container : String}
    {regions : List Region}
    (h : checkArtifacts store fs container regions = .error e) : e.kind = .missingArtifact := by
  obtain ⟨r, -, artifact, -, -, -, rfl⟩ := exists_of_checkArtifacts_error h
  rfl

private theorem of_checkAll_error {store : ArtifactStore} {containers : List Container}
    (h : checkAll store fs containers = .error e) : e.kind = .missingArtifact := by
  induction containers with
  | nil => cases h
  | cons c rest ih =>
    rw [checkAll] at h
    split at h
    · rename_i hcheck
      cases h
      exact of_checkArtifacts_error hcheck
    · exact ih h

end StitchJob

namespace Board

variable {b : Board} {t : LayoutTree} {store : ArtifactStore} {compress : Compressor}
  {files : Files → Prop} {m : StitchMemory} {w w' : Workspace}

private theorem allocated_stage1 (b : Board) : b.stage1.allocated = b.sizes.stage1 := by
  simp [stage1, Container.allocated, Container.allocation_eq_sum, Region.ofArtifact,
    Region.withCodec, BoardSizes.stage1, Nat.add_assoc]

private theorem simpleImage_child (b : Board) (size : UInt32) : ∀ r ∈ (b.simpleImage size).regions,
    ∀ child, r.source = .container child → r = (Region.ofContainer stage1Name size).exact := by
  simp only [simpleImage, List.forall_mem_append, List.forall_mem_cons]
  split <;> simp [Region.ofArtifact, Region.ofContainer, Region.exact, Region.withCodec]

theorem Planned.child (h : b.Planned t) {c : Container} (hc : c ∈ t.containers) {r : Region}
    (hr : r ∈ c.regions) {child : String} (source : r.source = .container child) :
    r.codec = .none ∧
      (r.policy = .pad ∨ ∃ d ∈ t.containers, d.name = child ∧ d.allocated = r.size.toNat) := by
  by_cases hb : b.isRedundant
  · rw [redundant_of_containers h.containers hb, List.mem_append, List.mem_singleton] at hc
    rcases hc with hleaf | rfl
    · cases source.symm.trans (b.ofArtifacts_redundant c hleaf r hr).1
    · obtain ⟨-, codec, -, policy⟩ := b.redundantImage_regions r hr
      exact ⟨codec, .inl policy⟩
  · obtain ⟨hsize, hcontainers, -⟩ := h.simple hb
    have hstage1 : b.stage1 ∈ t.containers := hcontainers ▸ List.mem_cons_self
    rw [hcontainers, List.mem_cons, List.mem_singleton] at hc
    rcases hc with rfl | rfl
    · cases source.symm.trans (b.ofArtifacts_stage1 r hr).1
    · obtain rfl := b.simpleImage_child _ r hr child source
      obtain rfl : stage1Name = child := Source.container.inj source
      refine ⟨rfl, .inr ⟨b.stage1, hstage1, rfl, ?_⟩⟩
      rw [allocated_stage1]
      exact (UInt32.toNat_ofNat_of_lt' hsize).symm

theorem Planned.length (h : b.Planned t) {w : Workspace}
    (sound : (b.job t store compress).Sound files m w) {d : Container} (hd : d ∈ t.containers)
    {data : Bytes} (built : m.built? d.name = some data) : data.length = d.allocated := by
  obtain ⟨contents, hassembled⟩ := sound.assembled hd built
  exact hassembled.length (h.policy d hd)

private theorem Planned.exists_place (h : b.Planned t) {w : Workspace}
    (sound : (b.job t store compress).Sound files m w) {c : Container} (hc : c ∈ t.containers)
    {r : Region} (hr : r ∈ c.regions) {child : String} (source : r.source = .container child)
    {data : Bytes} (built : m.built? child = some data) :
    ∃ bytes, r.place c.name data b.padByte = .ok bytes := by
  rcases (h.child hc hr source).2 with hpad | ⟨d, hd, rfl, hsize⟩
  · have hle := sound.length_le (LayoutTree.WellFormed.of_validate h.valid) hc hr source built
    exact Region.exists_place_of_le (by simp [hpad]) hle
  · exact Region.exists_place_of_eq ((h.length sound hd built).trans hsize)

private theorem of_build_error {e : Error} (hplan : b.plan = .ok t)
    (call : b.build store compress w = (.error e, w')) :
    e.kind = .missingArtifact ∨
      ∃ m, (b.job t store compress).stitchAll .empty w = ((.error e, m), w') := by
  have hplanned : Build.ofExcept b.plan w = (.ok t, w) := by rw [Build.ofExcept_eq, hplan]
  rw [build, bind_eq_of_ok hplanned, stitch, bind_eq_of_ok (Build.files_eq w)] at call
  rcases of_bind call with ⟨e', hpreflight, he⟩ | ⟨_, w₁, hpreflight, hbuilt⟩
  · cases he
    left
    rw [Build.ofExcept_eq] at hpreflight
    have hvalid := (planned_of_plan hplan).valid
    have hchecked := congrArg Prod.fst hpreflight
    simp only [StitchJob.preflight, hvalid] at hchecked
    exact StitchJob.of_checkAll_error hchecked
  · right
    obtain ⟨-, rfl⟩ := Build.of_ofExcept_ok hpreflight
    rcases of_bind hbuilt with ⟨e', honce, he⟩ | ⟨outputs, _, _, hreturned⟩
    · cases he
      exact Stitching.of_once honce
    · cases hreturned

/-- In a layout that has been validated, a container fits where it is embedded uncompressed: if the
region need not be filled, always, and otherwise if its allocation less what is left out of it is
the size of the region. So in the image of a board every container fits, for any artifacts and any
compressor. -/
theorem fits_of_validate :
    (∀ (job : StitchJob) (fs : Files) (m : StitchMemory) (w : Workspace),
      job.tree.validate = .ok () → job.Keeps (· = fs) → job.Reachable (· = fs) m w →
        ∀ c ∈ job.tree.containers, ∀ r ∈ c.regions, ∀ child, r.source = .container child →
          r.codec = .none →
            ∃ d ∈ job.tree.containers, d.name = child ∧ job.ChildFits fs m w c r d) ∧
    ∀ (b : Board) (t : LayoutTree) (store : ArtifactStore) (compress : Compressor)
      (w w' : Workspace) (e : Error), b.plan = .ok t →
        b.build store compress w = (.error e, w') →
          ∀ c ∈ t.containers, ∀ r ∈ c.regions, ∀ child, r.source = .container child →
            ¬ (b.job t store compress).CompressorFails
                ((b.job t store compress).callsOfAll .empty w) w' e → ¬ e.Refuses c r := by
  constructor
  · intro job fs m w valid keeps reachable c hc r hr child source codec
    exact StitchJob.childFits_of_validate valid keeps reachable hc hr source codec
  · intro b t store compress w w' e hplan call c hc r hr child source genuine refuses
    have hplanned := planned_of_plan hplan
    have keeps : (b.job t store compress).Keeps fun _ => True := fun _ _ _ _ => trivial
    rcases of_build_error hplan call with hmissing | ⟨m, hall⟩
    · obtain ⟨actual, allocated, policy, rfl⟩ := refuses
      cases hmissing
    · obtain ⟨name, -, cause⟩ :=
        StitchJob.cause_of_stitchAll keeps (StitchJob.sound_empty trivial) hall
      have hcause := cause.of_refuses (LayoutTree.WellFormed.of_validate hplanned.valid) hc hr
        source (hplanned.child hc hr source).1 refuses
      obtain ⟨data, m₁, w₁, sound, built, place⟩ := hcause.resolve_left genuine
      obtain ⟨bytes, htaken⟩ := hplanned.exists_place sound hc hr source built
      cases htaken.symm.trans place

/-- A layout in which a container that can do without one of its regions has to fill another one. -/
def sparingTree : LayoutTree where
  name := none
  blockSize := 4
  padByte := none
  containers := [
    ⟨"STAGE", [.ofArtifact "a" 4, { Region.ofArtifact "b" 4 with policy := .ignore }]⟩,
    ⟨"IMAGE", [(Region.ofContainer "STAGE" 8).exact]⟩]
  distinct := by decide

def sparingJob : StitchJob := ⟨sparingTree, sampleStore, fun _ raw => return raw, 0xFF⟩

def overlongArtifacts : ArtifactStore :=
  (sampleArtifacts false).insert "STAGE2.fd" [0x20, 0x20, 0x20]

/-- The container that does without a region has half its size and is refused. In the image of the
board it is the second stage that is refused, and not the container of the first one. -/
theorem fits_of_validate_sparing :
    let refused := Error.sizeViolation "IMAGE" "STAGE" 4 8 .noOp
    let overlong := Error.sizeViolation "IMAGE" "STAGE2.fd" 4 2 .pad
    sparingTree.validate = .ok () ∧
      (sparingJob.stitch "STAGE" .empty sampleWorkspace).1.1 = .ok [1, 2, 3, 0xFF] ∧
      (Region.ofContainer "STAGE" 8).exact.place "IMAGE" [1, 2, 3, 0xFF] 0xFF = .error refused ∧
      (simpleSample.build overlongArtifacts sampleCompressor sampleWorkspace).1 = .error overlong ∧
      ¬ overlong.Refuses (simpleSample.simpleImage 4) (Region.ofContainer stage1Name 4).exact := by
  have hvalid : sparingTree.validate = .ok () :=
    LayoutTree.validate_eq_ok_iff_checks.2 ⟨by decide, by decide, rfl, by cbv⟩
  have hstitch : (sparingJob.stitch "STAGE" .empty sampleWorkspace).1.1 =
      .ok [1, 2, 3, 0xFF] := by cbv
  have hbuild : (simpleSample.build overlongArtifacts sampleCompressor sampleWorkspace).1 =
      .error (.sizeViolation "IMAGE" "STAGE2.fd" 4 2 .pad) := by
    rw [build_eq_map plan_simpleSample rfl]
    cbv
  refine ⟨hvalid, hstitch, ?sparing, hbuild, ?board⟩
  case sparing =>
    have keeps : sparingJob.Keeps (· = sampleWorkspace.files) := fun _ _ _ hw => hw
    obtain ⟨d, hd, hname, hfits⟩ := fits_of_validate.1 sparingJob sampleWorkspace.files .empty
      sampleWorkspace hvalid keeps (.start rfl) _ (List.mem_of_getLast? rfl) _ List.mem_cons_self
      "STAGE" rfl rfl
    obtain rfl : d = ⟨"STAGE", [.ofArtifact "a" 4,
        { Region.ofArtifact "b" 4 with policy := .ignore }]⟩ :=
      List.inj_on_of_nodup_map sparingTree.distinct hd List.mem_cons_self hname
    exact (hfits.exact _ _ _ (Prod.ext (Prod.ext hstitch rfl) rfl) rfl).2 (by decide)
  case board =>
    refine fits_of_validate.2 simpleSample simpleSampleLayout overlongArtifacts sampleCompressor
      sampleWorkspace _ _ plan_simpleSample (Prod.ext hbuild rfl) (simpleSample.simpleImage 4)
      (List.mem_of_getLast? rfl) _ List.mem_cons_self stage1Name rfl ?_
    rintro ⟨codec, raw, before, -, hfails⟩
    cases hfails

end Board
end FlashImage
