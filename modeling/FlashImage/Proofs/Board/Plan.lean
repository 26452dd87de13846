import FlashImage.Board.Image
import FlashImage.Proofs.Stitch.Output

/-!
What is known of the layout of a board that has been planned, and of a build that has succeeded.

No region of a board may be left out, so every container of a build is complete.
-/

set_option autoImplicit false
set_option relaxedAutoImplicit false

namespace FlashImage

def Compressor.Keeps (compress : Compressor) (files : Files → Prop) : Prop :=
  ∀ codec raw w, files w.files → files (compress codec raw w).2.files

namespace Container

/-- Every region of a container has the artifact of its own name, which must not be missing. -/
def OfArtifacts (c : Container) : Prop :=
  ∀ r ∈ c.regions, r.source = .artifact r.name ∧ r.policy ≠ .ignore

theorem OfArtifacts.children {c : Container} (h : c.OfArtifacts) : c.children = [] := by
  rw [Container.children, List.filterMap_eq_nil_iff]
  intro r hr
  rw [(h r hr).1]
  rfl

end Container

namespace LayoutTree

theorem containers_of_add {t t' : LayoutTree} {c : Container} (h : t.add c = .ok t') :
    t'.containers = t.containers ++ [c] := by
  unfold add at h
  split at h
  · cases h
  · cases h
    rfl

theorem containers_of_addAll {t t' : LayoutTree} {cs : List Container}
    (h : t.addAll cs = .ok t') : t'.containers = t.containers ++ cs := by
  induction cs generalizing t with
  | nil =>
    cases h
    exact (List.append_nil _).symm
  | cons c rest ih =>
    rw [addAll] at h
    cases hadd : t.add c with
    | error e => simp [hadd] at h
    | ok t₁ =>
      simp only [hadd] at h
      rw [ih h, containers_of_add hadd, List.append_assoc, List.singleton_append]

theorem eq_of_reaches {t : LayoutTree} {c : Container} (hc : c ∈ t.containers)
    (hartifacts : c.OfArtifacts) {x : String} (hx : Relation.ReflTransGen t.Embeds c.name x) :
    x = c.name := by
  rcases hx.cases_head with heq | ⟨y, he, -⟩
  · exact heq.symm
  · rw [embeds_iff, children_of_find? (find?_name hc), hartifacts.children] at he
    cases he

private theorem acyclic_of_leaves {t : LayoutTree} {leaves : List Container} {image : Container}
    (hcontainers : t.containers = leaves ++ [image]) (hleaves : ∀ c ∈ leaves, c.OfArtifacts)
    (himage : ∀ child ∈ image.children, child ∈ leaves.map (·.name)) : t.Acyclic := by
  have houter {outer inner : String} (he : t.Embeds outer inner) :
      outer = image.name ∧ inner ∈ leaves.map (·.name) := by
    obtain ⟨c, hc, r, hr, hsource⟩ := exists_of_embeds he
    have hinner : inner ∈ c.children := mem_children_iff.2 ⟨r, hr, hsource⟩
    have hmem : c ∈ leaves ++ [image] := hcontainers ▸ mem_of_find? hc
    rcases List.mem_append.1 hmem with hleaf | hlast
    · rw [(hleaves c hleaf).children] at hinner
      cases hinner
    · obtain rfl := List.mem_singleton.1 hlast
      exact ⟨(name_of_find? hc).symm, himage inner hinner⟩
  have hdistinct := t.distinct
  rw [hcontainers, List.map_append, List.nodup_append] at hdistinct
  intro name hcycle
  obtain ⟨x, hfirst, -⟩ := Relation.TransGen.head'_iff.1 hcycle
  obtain ⟨y, -, hlast⟩ := Relation.TransGen.tail'_iff.1 hcycle
  exact hdistinct.2.2 name (houter hlast).2 image.name (by simp) (houter hfirst).1

end LayoutTree

namespace Board

variable {b : Board} {t : LayoutTree}

/-- What is known of the layout that a board is planned with. -/
structure Planned (b : Board) (t : LayoutTree) : Prop where
  containers : b.containers = .ok t.containers
  size : ∃ image, t.final? = some image ∧ b.imageFault? image = none
  valid : t.validate = .ok ()

theorem containers_of_layout (h : b.layout = .ok t) : b.containers = .ok t.containers := by
  unfold layout at h
  split at h
  · cases h
  · rename_i cs hcs
    rw [hcs, LayoutTree.containers_of_addAll h]
    rfl

theorem checkImage_eq_ok_iff : b.checkImage t = .ok () ↔
    ∃ image, t.final? = some image ∧ b.imageFault? image = none := by
  cases hfinal : t.final? with
  | none => simp [checkImage, hfinal]
  | some image => cases hfault : b.imageFault? image <;> simp [checkImage, hfinal, hfault]

theorem plan_eq_ok_iff : b.plan = .ok t ↔
    b.layout = .ok t ∧ b.checkImage t = .ok () ∧ t.validate = .ok () := by
  constructor
  · intro h
    unfold plan at h
    split at h
    · cases h
    rename_i hlayout
    split at h
    · cases h
    rename_i himage
    split at h
    · cases h
    rename_i hvalid
    cases h
    exact ⟨hlayout, himage, hvalid⟩
  · rintro ⟨hlayout, himage, hvalid⟩
    simp only [plan, hlayout, himage, hvalid]

theorem planned_of_plan (h : b.plan = .ok t) : b.Planned t := by
  obtain ⟨hlayout, himage, hvalid⟩ := plan_eq_ok_iff.1 h
  exact ⟨containers_of_layout hlayout, checkImage_eq_ok_iff.1 himage, hvalid⟩

theorem redundant_of_containers {cs : List Container} (h : b.containers = .ok cs)
    (hb : b.isRedundant) : cs = b.redundantContainers.dropLast ++ [b.redundantImage] := by
  rw [Board.containers, if_pos hb] at h
  exact (Except.ok.inj h).symm

theorem simple_of_containers {cs : List Container} (h : b.containers = .ok cs)
    (hb : ¬ b.isRedundant) : b.sizes.stage1 < UInt32.size ∧
      cs = [b.stage1] ++ [b.simpleImage (UInt32.ofNat b.sizes.stage1)] := by
  rw [Board.containers, if_neg hb, simpleContainers] at h
  split at h
  · rename_i hsize
    exact ⟨hsize, (Except.ok.inj h).symm⟩
  · cases h

theorem Planned.image {image : Container} {leaves : List Container} (h : b.Planned t)
    (hcontainers : t.containers = leaves ++ [image]) :
    t.final? = some image ∧ b.imageFault? image = none := by
  have hfinal : t.final? = some image := by
    rw [LayoutTree.final?, hcontainers, List.getLast?_concat]
  obtain ⟨image', himage, hfault⟩ := h.size
  obtain rfl : image = image' := Option.some.inj (hfinal.symm.trans himage)
  exact ⟨hfinal, hfault⟩

theorem Planned.redundant (h : b.Planned t) (hb : b.isRedundant) :
    t.containers = b.redundantContainers ∧ t.final? = some b.redundantImage ∧
      b.redundantImage.allocated = b.flashSize.toNat := by
  have hcontainers := redundant_of_containers h.containers hb
  obtain ⟨hfinal, hfault⟩ := h.image hcontainers
  refine ⟨hcontainers, hfinal, ?_⟩
  rw [imageFault?, if_pos hb] at hfault
  split at hfault
  · cases hfault
  rename_i hflash
  split at hfault
  · cases hfault
  rename_i hallocated
  exact (not_not.1 hallocated).trans (not_not.1 hflash)

theorem Planned.simple (h : b.Planned t) (hb : ¬ b.isRedundant) :
    b.sizes.stage1 < UInt32.size ∧
      t.containers = [b.stage1, b.simpleImage (UInt32.ofNat b.sizes.stage1)] ∧
      t.final? = some (b.simpleImage (UInt32.ofNat b.sizes.stage1)) ∧
      (b.simpleImage (UInt32.ofNat b.sizes.stage1)).allocated ≤ b.sizes.nonRedundant.toNat := by
  obtain ⟨hsize, hcontainers⟩ := simple_of_containers h.containers hb
  obtain ⟨hfinal, hfault⟩ := h.image hcontainers
  refine ⟨hsize, hcontainers, hfinal, ?_⟩
  rw [imageFault?, if_neg hb] at hfault
  split at hfault
  · cases hfault
  · rename_i hle
    exact Nat.not_lt.1 hle

theorem forall_mem_optionalRegion {on : Bool} {size : Option UInt32} {region : UInt32 → Region}
    {p : Region → Prop} :
    (∀ r ∈ optionalRegion on size region, p r) ↔ on = true → ∀ n, size = some n → p (region n) := by
  cases on with
  | false => simp [optionalRegion]
  | true => cases size <;> simp [optionalRegion]

theorem ofArtifacts_redundant (b : Board) :
    ∀ c ∈ b.redundantContainers.dropLast, c.OfArtifacts := by
  simp only [redundantContainers, List.dropLast, List.forall_mem_cons, Container.OfArtifacts,
    nonVolatile, nonRedundant, redundantCopy, topSwap, List.forall_mem_append,
    forall_mem_optionalRegion]
  simp [Region.ofArtifact, Region.exact, Region.atHead, Region.withCodec]

theorem ofArtifacts_stage1 (b : Board) : b.stage1.OfArtifacts := by
  simp [Container.OfArtifacts, stage1, Region.ofArtifact, Region.withCodec]

theorem redundantImage_regions (b : Board) : ∀ r ∈ b.redundantImage.regions,
    r.source = .container r.name ∧ r.codec = .none ∧ r.position = .head ∧ r.policy = .pad := by
  simp [redundantImage, Region.ofContainer, Region.atHead]

private theorem simpleImage_regions (b : Board) (size : UInt32) :
    ∀ r ∈ (b.simpleImage size).regions,
    r.policy ≠ .ignore ∧ ∀ child, r.source = .container child → child = stage1Name := by
  simp only [simpleImage, List.forall_mem_append, List.forall_mem_cons]
  split <;> simp [Region.ofArtifact, Region.ofContainer, Region.exact, Region.withCodec]

theorem Planned.policy (h : b.Planned t) :
    ∀ c ∈ t.containers, ∀ r ∈ c.regions, r.policy ≠ .ignore := by
  intro c hc r hr
  by_cases hb : b.isRedundant
  · rw [redundant_of_containers h.containers hb, List.mem_append, List.mem_singleton] at hc
    rcases hc with hleaf | rfl
    · exact (b.ofArtifacts_redundant c hleaf r hr).2
    · simp [(b.redundantImage_regions r hr).2.2.2]
  · rw [(simple_of_containers h.containers hb).2, List.mem_append, List.mem_singleton,
      List.mem_singleton] at hc
    rcases hc with rfl | rfl
    · exact (b.ofArtifacts_stage1 r hr).2
    · exact (b.simpleImage_regions _ r hr).1

theorem acyclic_of_layout (h : b.layout = .ok t) : t.Acyclic := by
  have hcontainers := containers_of_layout h
  by_cases hb : b.isRedundant
  · have himage : b.redundantImage.children =
        [BoardCopy.a.topSwapName, BoardCopy.b.topSwapName, BoardCopy.a.redundantName,
          BoardCopy.b.redundantName, nonRedundantName, nonVolatileName] := rfl
    have hleaves : b.redundantContainers.dropLast.map (·.name) =
        [nonVolatileName, nonRedundantName, BoardCopy.a.redundantName, BoardCopy.b.redundantName,
          BoardCopy.a.topSwapName, BoardCopy.b.topSwapName] := rfl
    refine LayoutTree.acyclic_of_leaves (redundant_of_containers hcontainers hb)
      b.ofArtifacts_redundant ?_
    rw [himage, hleaves]
    decide
  · refine LayoutTree.acyclic_of_leaves (simple_of_containers hcontainers hb).2
      (List.forall_mem_singleton.2 b.ofArtifacts_stage1) fun child hchild => ?_
    obtain ⟨r, hr, hsource⟩ := LayoutTree.mem_children_iff.1 hchild
    rw [(b.simpleImage_regions _ r hr).2 child hsource]
    exact List.mem_singleton_self stage1Name

private theorem plan_of_checks (hlayout : b.layout = .ok t) (himage : b.checkImage t = .ok ())
    (hblock : t.blockSize ≠ 0) (hnonempty : t.containers ≠ [])
    (hcontainers : t.checkContainers t.containers = .ok ()) : b.plan = .ok t := by
  have hcycle : t.cycle? = none := (LayoutTree.cycle?_eq_none_iff t).2 (acyclic_of_layout hlayout)
  have hvalid : t.validate = .ok () :=
    LayoutTree.validate_eq_ok_iff_checks.2 ⟨hblock, hnonempty, hcontainers, hcycle⟩
  exact plan_eq_ok_iff.2 ⟨hlayout, himage, hvalid⟩

def job (b : Board) (t : LayoutTree) (store : ArtifactStore) (compress : Compressor) : StitchJob :=
  ⟨t, store, compress, b.padByte⟩

theorem of_stitch {store : ArtifactStore} {compress : Compressor} {w w' : Workspace}
    {out : StitchOutput} (call : b.stitch t store compress w = (.ok out, w')) :
    (b.job t store compress).preflight w.files = .ok () ∧
      ∃ m, (b.job t store compress).stitchAll .empty w = ((.ok out.containers, m), w') := by
  obtain ⟨fs, _, hfiles, hchecked⟩ := of_bind_ok call
  cases hfiles
  obtain ⟨_, _, hpreflight, hbuilt⟩ := of_bind_ok hchecked
  obtain ⟨hpreflight, rfl⟩ := Build.of_ofExcept_ok hpreflight
  obtain ⟨outputs, _, honce, hout⟩ := of_bind_ok hbuilt
  cases hout
  exact ⟨hpreflight, Stitching.of_once honce⟩

theorem of_build {store : ArtifactStore} {compress : Compressor} {w w' : Workspace}
    {out : StitchOutput} (call : b.build store compress w = (.ok out, w')) :
    ∃ t m, b.plan = .ok t ∧
      (b.job t store compress).stitchAll .empty w = ((.ok out.containers, m), w') := by
  obtain ⟨t, _, hstart, hstitch⟩ := of_bind_ok call
  obtain ⟨hplan, rfl⟩ := Build.of_ofExcept_ok hstart
  obtain ⟨-, m, hall⟩ := of_stitch hstitch
  exact ⟨t, m, hplan, hall⟩

theorem build_eq_map {store : ArtifactStore} {compress : Compressor} {w : Workspace}
    (hplan : b.plan = .ok t)
    (hchecked : StitchJob.checkAll store w.files t.containers = .ok ()) :
    (b.build store compress w).1 =
      ((b.job t store compress).stitchAll .empty w).1.1.map StitchOutput.mk := by
  have hplanned : Build.ofExcept b.plan w = (.ok t, w) := by rw [Build.ofExcept_eq, hplan]
  have hpreflight : (b.job t store compress).preflight w.files = .ok () := by
    have hvalid : (b.job t store compress).tree.validate = .ok () := (planned_of_plan hplan).valid
    simp only [StitchJob.preflight, hvalid]
    exact hchecked
  have hpassed : Build.ofExcept ((b.job t store compress).preflight w.files) w = (.ok (), w) := by
    rw [Build.ofExcept_eq, hpreflight]
  rcases hall : (b.job t store compress).stitchAll .empty w with ⟨⟨e | outputs, m⟩, w₁⟩
  · have honce : Stitching.once (b.job t store compress).stitchAll w = (.error e, w₁) := by
      rw [Stitching.once, hall]
    unfold job at hpassed honce
    rw [build, bind_eq_of_ok hplanned, stitch, bind_eq_of_ok (Build.files_eq w),
      bind_eq_of_ok hpassed, bind_eq_of_error honce]
    rfl
  · have honce : Stitching.once (b.job t store compress).stitchAll w = (.ok outputs, w₁) := by
      rw [Stitching.once, hall]
    unfold job at hpassed honce
    rw [build, bind_eq_of_ok hplanned, stitch, bind_eq_of_ok (Build.files_eq w),
      bind_eq_of_ok hpassed, bind_eq_of_ok honce]
    rfl

private theorem build_of_stitchAll {store : ArtifactStore} {compress : Compressor} {w : Workspace}
    {outputs : List (String × Bytes)} (hplan : b.plan = .ok t)
    (hchecked : StitchJob.checkAll store w.files t.containers = .ok ())
    (hall : ((b.job t store compress).stitchAll .empty w).1.1 = .ok outputs) :
    (b.build store compress w).1 = .ok ⟨outputs⟩ := by
  rw [build_eq_map hplan hchecked, hall]
  rfl

/-- A small board with areas for two copies, each one with a firmware update. -/
def sample : Board where
  name := "sample"
  imageName := "IMAGE"
  padByte := 0xFF
  blockSize := 1
  flashSize := 33
  isRedundant := true
  features := { FeatureSet.none with firmwareUpdate := true }
  sizes := {
    reset := 1, stage1a := 1, stage1b := 2, stage2 := 2, payload := 2, configData := 1
    keyHash := 1, variableStore := 1, reserved := 1, firmwareUpdate := some 2, extraPayload := none
    topSwap := 2, redundant := 8, nonRedundant := 12, nonVolatile := 1 }
  resetVector := ⟨"aarch64", 0⟩

def simpleSample : Board := { sample with isRedundant := false }

def sampleArtifacts (changed : Bool) : ArtifactStore where
  blobs := [
    (resetVectorName, [0x10]), ("STAGE1A.fd", [0x1A]), ("STAGE1B.fd", [0x1B]),
    ("STAGE1A_A.fd", [0x1A]), ("STAGE1A_B.fd", [if changed then 0xA1 else 0x1A]),
    ("STAGE1B_A.fd", [0x1B]), ("STAGE1B_B.fd", [if changed then 0xB1 else 0x1B]),
    ("STAGE2.fd", [0x20]), ("FWUPDATE.bin", [0x30]), ("CFGDATA.bin", [0x40]),
    ("KEYHASH.bin", [0x50]), ("VARIABLE.bin", [0x60]), ("PAYLOAD.bin", [0x70]),
    ("SBLRSVD.bin", [0x80])]
  directories := []

def sampleLayout : LayoutTree :=
  { sample.emptyLayout with containers := sample.redundantContainers, distinct := by decide }

def simpleSampleLayout : LayoutTree :=
  { simpleSample.emptyLayout with
    containers := [simpleSample.stage1, simpleSample.simpleImage 4], distinct := by decide }

theorem plan_sample : sample.plan = .ok sampleLayout :=
  plan_of_checks rfl rfl (by decide) (by decide) rfl

theorem plan_simpleSample : simpleSample.plan = .ok simpleSampleLayout :=
  plan_of_checks rfl rfl (by decide) (by decide) rfl

def sampleCompressor : Compressor := fun _ raw => return 0 :: raw

def sampleOutput (changed : Bool) : StitchOutput where
  containers := [
    ("NON_VOLATILE.bin", [0x80]), ("NON_REDUNDANT.bin", [0x60, 0, 0x70]),
    ("REDUNDANT_A.bin", [0, 0x1B, 0, 0x20, 0, 0x30, 0x40, 0x50]),
    ("REDUNDANT_B.bin", [0, if changed then 0xB1 else 0x1B, 0, 0x20, 0, 0x30, 0x40, 0x50]),
    ("TOP_SWAP_A.bin", [0x10, 0x1A]),
    ("TOP_SWAP_B.bin", [0x10, if changed then 0xA1 else 0x1A]),
    ("IMAGE",
      [0x10, 0x1A] ++ [0x10, if changed then 0xA1 else 0x1A] ++
      [0, 0x1B, 0, 0x20, 0, 0x30, 0x40, 0x50] ++
      [0, if changed then 0xB1 else 0x1B, 0, 0x20, 0, 0x30, 0x40, 0x50] ++
      [0xFF, 0xFF, 0xFF, 0xFF, 0xFF, 0xFF, 0xFF, 0xFF, 0xFF, 0x60, 0, 0x70] ++ [0x80])]

theorem build_sample (changed : Bool) :
    (sample.build (sampleArtifacts changed) sampleCompressor sampleWorkspace).1 =
      .ok (sampleOutput changed) := by
  have hchecked : StitchJob.checkAll (sampleArtifacts changed) sampleWorkspace.files
      sampleLayout.containers = .ok () := by
    cases changed <;> rfl
  refine build_of_stitchAll plan_sample hchecked ?_
  have htree : (sample.job sampleLayout (sampleArtifacts changed) sampleCompressor).tree =
      sampleLayout := rfl
  have hnames : sampleLayout.names = sample.redundantContainers.map (·.name) := rfl
  have hfind : ∀ c ∈ sample.redundantContainers, sampleLayout.find? c.name = some c :=
    fun c hc => LayoutTree.find?_name hc
  have hupdate : optionalRegion sample.features.firmwareUpdate sample.sizes.firmwareUpdate =
      fun region => [region 2] := rfl
  have hpayload : optionalRegion sample.features.extraPayload sample.sizes.extraPayload =
      fun _ => [] := rfl
  -- With the containers written out, nothing of the recursion on the layout is left to evaluate.
  simp only [redundantContainers, nonVolatile, nonRedundant, redundantCopy, topSwap, redundantImage,
    List.forall_mem_cons, hupdate, hpayload, List.cons_append, List.nil_append] at hfind
  simp only [StitchJob.stitchAll, htree, hnames, redundantContainers, nonVolatile, nonRedundant,
    redundantCopy, topSwap, redundantImage, List.map_cons, List.map_nil, StitchJob.stitchEach,
    StitchJob.stitch, StitchJob.stitchBelow_eq, hfind, StitchJob.stitchRegions_cons,
    StitchJob.stitchRegions, StitchJob.stitchRegion, Region.ofArtifact, Region.ofContainer,
    Region.exact, Region.atHead, Region.withCodec]
  cases changed <;> decide +kernel

def simpleSampleOutput : StitchOutput where
  containers := [
    ("STAGE1.bin", [0x10, 0x1A, 0, 0x1B]),
    ("IMAGE", [0x10, 0x1A, 0, 0x1B] ++ [0, 0x20] ++ [0x40] ++ [0, 0x70] ++ [0x60] ++ [0x80])]

theorem build_simpleSample :
    (simpleSample.build (sampleArtifacts false) sampleCompressor sampleWorkspace).1 =
      .ok simpleSampleOutput := by
  refine build_of_stitchAll plan_simpleSample rfl ?_
  have htree : (simpleSample.job simpleSampleLayout (sampleArtifacts false) sampleCompressor).tree =
      simpleSampleLayout := rfl
  have hnames : simpleSampleLayout.names = [stage1Name, simpleSample.imageName] := rfl
  have hfind : ∀ c ∈ [simpleSample.stage1, simpleSample.simpleImage 4],
      simpleSampleLayout.find? c.name = some c := fun c hc => LayoutTree.find?_name hc
  have hverified : simpleSample.features.verifiedBoot = false := rfl
  simp only [stage1, simpleImage, List.forall_mem_cons, hverified, Bool.false_eq_true, if_false,
    List.append_nil, List.cons_append, List.nil_append] at hfind
  simp only [StitchJob.stitchAll, htree, hnames, StitchJob.stitchEach, StitchJob.stitch,
    StitchJob.stitchBelow_eq, hfind, StitchJob.stitchRegions_cons, StitchJob.stitchRegions,
    StitchJob.stitchRegion, Region.ofArtifact, Region.ofContainer, Region.exact, Region.withCodec]
  decide +kernel

end Board
end FlashImage
