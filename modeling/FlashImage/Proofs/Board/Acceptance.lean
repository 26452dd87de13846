import FlashImage.Proofs.Board.Plan

/-!
The boards that are planned are exactly those that fit.

What it means to fit is said in terms of the sizes of a board alone, and these are added up as whole
numbers without a bound. The layout of a board never has a cycle, and its containers and regions
never share a name with others unless the image takes the name of another container. So what a plan
asks is a name for the image, whole blocks for all regions, and room for what stands in an area.
-/

set_option autoImplicit false
set_option relaxedAutoImplicit false

namespace FlashImage

/-- A number of bytes is that of one or more blocks. -/
def WholeBlocks (block : UInt32) (n : Nat) : Prop := 0 < n ∧ block.toNat ∣ n

def totalSize (sizes : List UInt32) : Nat := (sizes.map (·.toNat)).sum

namespace Board

/-- A size counts only if its feature is on and it is given. -/
def optionalSize (on : Bool) (size : Option UInt32) : List UInt32 := if on then size.toList else []

def updateSize (b : Board) : List UInt32 :=
  optionalSize b.features.firmwareUpdate b.sizes.firmwareUpdate

def extraSize (b : Board) : List UInt32 :=
  optionalSize b.features.extraPayload b.sizes.extraPayload

/-- The sizes that matter to a board. A simple board has no areas, and key hashes only if it
verifies what it boots. -/
def usedSizes (b : Board) : List UInt32 :=
  let s := b.sizes
  if b.isRedundant then
    [s.reset, s.stage1a, s.stage1b, s.stage2, s.configData, s.keyHash, s.variableStore, s.payload,
      s.reserved, s.topSwap, s.redundant, s.nonRedundant, s.nonVolatile] ++ b.updateSize ++
      b.extraSize
  else
    [s.reset, s.stage1a, s.stage1b, s.stage2, s.configData, s.payload, s.variableStore,
      s.reserved] ++ optionalSize b.features.verifiedBoot (some s.keyHash)

/-- The containers of a board besides its image. -/
def partNames (b : Board) : List String :=
  if b.isRedundant then
    ["NON_VOLATILE.bin", "NON_REDUNDANT.bin", "REDUNDANT_A.bin", "REDUNDANT_B.bin",
      "TOP_SWAP_A.bin", "TOP_SWAP_B.bin"]
  else ["STAGE1.bin"]

/-- Each area of a redundant board has room for what stands in it, and the areas are the flash. -/
structure AreasFit (b : Board) : Prop where
  topSwap : totalSize [b.sizes.reset, b.sizes.stage1a] ≤ b.sizes.topSwap.toNat
  redundant : totalSize ([b.sizes.stage1b, b.sizes.stage2, b.sizes.configData, b.sizes.keyHash] ++
    b.updateSize) ≤ b.sizes.redundant.toNat
  nonRedundant : totalSize ([b.sizes.variableStore, b.sizes.payload] ++ b.extraSize) ≤
    b.sizes.nonRedundant.toNat
  nonVolatile : b.sizes.reserved.toNat ≤ b.sizes.nonVolatile.toNat
  flash : 2 * b.sizes.topSwap.toNat + 2 * b.sizes.redundant.toNat + b.sizes.nonRedundant.toNat +
    b.sizes.nonVolatile.toNat = b.flashSize.toNat

/-- A board fits: its image has a name of its own, everything that it uses has whole blocks, and
there is room for it. -/
structure Fits (b : Board) : Prop where
  blockSize_pos : 0 < b.blockSize.toNat
  plainName : PlainName b.imageName
  ownName : b.imageName ∉ b.partNames
  wholeBlocks : ∀ n ∈ b.usedSizes, WholeBlocks b.blockSize n.toNat
  areas : b.isRedundant → b.AreasFit
  image : ¬ b.isRedundant → totalSize b.usedSizes ≤ b.sizes.nonRedundant.toNat

end Board

@[simp] theorem totalSize_nil : totalSize [] = 0 := rfl

@[simp] theorem totalSize_cons (n : UInt32) (sizes : List UInt32) :
    totalSize (n :: sizes) = n.toNat + totalSize sizes := List.sum_cons

@[simp] theorem totalSize_append (sizes more : List UInt32) :
    totalSize (sizes ++ more) = totalSize sizes + totalSize more := by
  rw [totalSize, List.map_append, List.sum_append]
  rfl

theorem WholeBlocks.add {block : UInt32} {m n : Nat} (hm : WholeBlocks block m)
    (hn : WholeBlocks block n) : WholeBlocks block (m + n) :=
  ⟨Nat.add_pos_left hm.1 n, Nat.dvd_add hm.2 hn.2⟩

namespace Container

private theorem allocated_eq_totalSize (c : Container) :
    c.allocated = totalSize (c.regions.map (·.size)) := by
  rw [allocated, allocation_eq_sum, totalSize, List.map_map]
  rfl

end Container

namespace LayoutTree

variable {t t' : LayoutTree} {cs : List Container}

private theorem exists_addAll (h : ((t.containers ++ cs).map (·.name)).Nodup) :
    ∃ t', t.addAll cs = .ok t' := by
  induction cs generalizing t with
  | nil => exact ⟨t, rfl⟩
  | cons c rest ih =>
    have hnew : c.name ∉ t.names := by
      rw [List.map_append, List.map_cons, List.nodup_append] at h
      exact fun hc => h.2.2 c.name hc c.name List.mem_cons_self rfl
    cases hadd : t.add c with
    | error e => simp [add, hnew] at hadd
    | ok t₁ =>
      have hrest : ((t₁.containers ++ rest).map (·.name)).Nodup := by
        rw [containers_of_add hadd, List.append_assoc, List.singleton_append]
        exact h
      obtain ⟨t', ht'⟩ := ih hrest
      refine ⟨t', ?_⟩
      rw [addAll, hadd]
      exact ht'

private theorem blockSize_of_addAll (h : t.addAll cs = .ok t') : t'.blockSize = t.blockSize := by
  induction cs generalizing t with
  | nil =>
    cases h
    rfl
  | cons c rest ih =>
    rw [addAll] at h
    cases hadd : t.add c with
    | error e => simp [hadd] at h
    | ok t₁ =>
      simp only [hadd] at h
      rw [ih h]
      unfold add at hadd
      split at hadd
      · cases hadd
      · cases hadd
        rfl

/-- A region with a container as its source has room for it. -/
def HasRoom (t : LayoutTree) (r : Region) : Prop :=
  ∀ child, r.source = .container child →
    ∃ c ∈ t.containers, c.name = child ∧ c.allocated ≤ r.size.toNat

private theorem hasRoom_of_artifact {r : Region} {artifact : String}
    (hs : r.source = .artifact artifact) :
    t.HasRoom r := by
  intro child hchild
  rw [hs] at hchild
  cases hchild

private theorem hasRoom_iff {c : Container} (hc : c ∈ t.containers) {r : Region}
    (hs : r.source = .container c.name) : t.HasRoom r ↔ c.allocated ≤ r.size.toNat := by
  simp [HasRoom, hs, exists_mem_iff_find?, find?_name hc]

private theorem regionFits_iff {r : Region} :
    t.RegionFits r ↔ WholeBlocks t.blockSize r.size.toNat ∧ t.HasRoom r := by
  have hallocated (c : Container) : (c.regions.map (·.size.toNat)).sum = c.allocated :=
    (Container.allocation_eq_sum c.regions).symm
  constructor
  · intro h
    refine ⟨⟨h.pos, h.aligned⟩, fun child hs => ?_⟩
    simpa only [hallocated] using h.holds child hs
  · rintro ⟨⟨hpos, haligned⟩, hroom⟩
    refine ⟨hpos, haligned, fun child hs => ?_⟩
    simpa only [hallocated] using hroom child hs

end LayoutTree

namespace Board

variable {b : Board} {t : LayoutTree}

theorem simpleImage_eq (b : Board) (size : UInt32) : b.simpleImage size =
    ⟨b.imageName,
      [(Region.ofContainer stage1Name size).exact,
        (Region.ofArtifact "STAGE2.fd" b.sizes.stage2).withCodec .lz4,
        .ofArtifact "CFGDATA.bin" b.sizes.configData,
        (Region.ofArtifact "PAYLOAD.bin" b.sizes.payload).withCodec .lzma] ++
      optionalRegion b.features.verifiedBoot (some b.sizes.keyHash) (.ofArtifact "KEYHASH.bin") ++
      [(Region.ofArtifact "VARIABLE.bin" b.sizes.variableStore).exact,
        (Region.ofArtifact "SBLRSVD.bin" b.sizes.reserved).exact]⟩ := by
  unfold simpleImage
  cases b.features.verifiedBoot <;> rfl

section Optional

variable {before after : List Region} {on : Bool} {size : Option UInt32} {region : UInt32 → Region}

private theorem nodup_names_optional {name : String} (hname : ∀ n, (region n).name = name)
    (h : (before.map (·.name) ++ [name] ++ after.map (·.name)).Nodup) :
    ((before ++ optionalRegion on size region ++ after).map (·.name)).Nodup := by
  have hoptional : ((optionalRegion on size region).map (·.name)).Sublist [name] := by
    cases on <;> cases size <;> simp [optionalRegion, hname]
  rw [List.map_append, List.map_append]
  exact h.sublist (((List.Sublist.refl _).append hoptional).append (List.Sublist.refl _))

private theorem map_size_optional (hsize : ∀ n, (region n).size = n) :
    (before ++ optionalRegion on size region ++ after).map (·.size) =
      before.map (·.size) ++ optionalSize on size ++ after.map (·.size) := by
  have hoptional : (optionalRegion on size region).map (·.size) = optionalSize on size := by
    cases on <;> cases size <;> simp [optionalRegion, optionalSize, hsize]
  rw [List.map_append, List.map_append, hoptional]

end Optional

private theorem sizes_topSwap (b : Board) (c : BoardCopy) :
    (b.topSwap c).regions.map (·.size) = [b.sizes.reset, b.sizes.stage1a] := rfl

private theorem sizes_stage1 (b : Board) : b.stage1.regions.map (·.size) =
    [b.sizes.reset, b.sizes.stage1a, b.sizes.stage1b] := rfl

private theorem sizes_redundantImage (b : Board) : b.redundantImage.regions.map (·.size) =
    [b.sizes.topSwap, b.sizes.topSwap, b.sizes.redundant, b.sizes.redundant,
      b.sizes.nonRedundant, b.sizes.nonVolatile] := rfl

private theorem sizes_nonVolatile (b : Board) :
    b.nonVolatile.regions.map (·.size) = [b.sizes.reserved] := rfl

private theorem sizes_nonRedundant (b : Board) : b.nonRedundant.regions.map (·.size) =
    [b.sizes.variableStore, b.sizes.payload] ++ b.extraSize := by
  rw [← List.append_nil b.nonRedundant.regions, ← List.append_nil (_ ++ b.extraSize)]
  exact map_size_optional fun _ => rfl

private theorem sizes_redundantCopy (b : Board) (c : BoardCopy) :
    (b.redundantCopy c).regions.map (·.size) =
      [b.sizes.stage1b, b.sizes.stage2] ++ b.updateSize ++ [b.sizes.configData, b.sizes.keyHash] :=
  map_size_optional fun _ => rfl

private theorem sizes_simpleImage (b : Board) (size : UInt32) :
    (b.simpleImage size).regions.map (·.size) =
      [size, b.sizes.stage2, b.sizes.configData, b.sizes.payload] ++
        optionalSize b.features.verifiedBoot (some b.sizes.keyHash) ++
        [b.sizes.variableStore, b.sizes.reserved] := by
  rw [simpleImage_eq]
  exact map_size_optional fun _ => rfl

/-- The regions of a container have distinct names, and there is at least one. -/
def WellShaped (c : Container) : Prop := c.regions ≠ [] ∧ (c.regions.map (·.name)).Nodup

theorem wellShaped_redundant (b : Board) : ∀ c ∈ b.redundantContainers, WellShaped c := by
  have hnonVolatile : WellShaped b.nonVolatile := ⟨List.cons_ne_nil _ _, List.nodup_singleton _⟩
  have hnonRedundant : WellShaped b.nonRedundant := by
    have hdistinct : ["VARIABLE.bin", "PAYLOAD.bin", "EPAYLOAD.bin"].Nodup := by decide
    refine ⟨List.cons_ne_nil _ _, ?_⟩
    rw [← List.append_nil b.nonRedundant.regions]
    exact nodup_names_optional (fun _ => rfl) hdistinct
  have hcopy (c : BoardCopy) : WellShaped (b.redundantCopy c) := by
    have hdistinct : [c.stage1bName, "STAGE2.fd", "FWUPDATE.bin", "CFGDATA.bin",
        "KEYHASH.bin"].Nodup := by
      cases c <;> decide
    exact ⟨List.cons_ne_nil _ _, nodup_names_optional (fun _ => rfl) hdistinct⟩
  have htopSwap (c : BoardCopy) : WellShaped (b.topSwap c) := by
    have hdistinct : [resetVectorName, c.stage1aName].Nodup := by cases c <;> decide
    exact ⟨List.cons_ne_nil _ _, hdistinct⟩
  have himage : WellShaped b.redundantImage := by
    have hdistinct : [BoardCopy.a.topSwapName, BoardCopy.b.topSwapName, BoardCopy.a.redundantName,
        BoardCopy.b.redundantName, nonRedundantName, nonVolatileName].Nodup := by decide
    exact ⟨List.cons_ne_nil _ _, hdistinct⟩
  simp only [redundantContainers, List.forall_mem_cons]
  exact ⟨hnonVolatile, hnonRedundant, hcopy .a, hcopy .b, htopSwap .a, htopSwap .b, himage,
    List.forall_mem_nil _⟩

theorem wellShaped_simple (b : Board) (size : UInt32) :
    ∀ c ∈ [b.stage1, b.simpleImage size], WellShaped c := by
  have hstage1 : WellShaped b.stage1 := by
    have hdistinct : [resetVectorName, "STAGE1A.fd", "STAGE1B.fd"].Nodup := by decide
    exact ⟨List.cons_ne_nil _ _, hdistinct⟩
  have himage : WellShaped (b.simpleImage size) := by
    have hdistinct : [stage1Name, "STAGE2.fd", "CFGDATA.bin", "PAYLOAD.bin", "KEYHASH.bin",
        "VARIABLE.bin", "SBLRSVD.bin"].Nodup := by decide
    rw [simpleImage_eq]
    exact ⟨List.cons_ne_nil _ _, nodup_names_optional (fun _ => rfl) hdistinct⟩
  rw [List.forall_mem_cons, List.forall_mem_singleton]
  exact ⟨hstage1, himage⟩

private theorem forall_size_redundant (hb : b.isRedundant) {p : UInt32 → Prop} :
    (∀ c ∈ b.redundantContainers, ∀ n ∈ c.regions.map (·.size), p n) ↔ ∀ n ∈ b.usedSizes, p n := by
  simp only [redundantContainers, usedSizes, if_pos hb, List.forall_mem_cons, sizes_nonVolatile,
    sizes_nonRedundant, sizes_redundantCopy, sizes_topSwap, sizes_redundantImage,
    List.forall_mem_append, List.not_mem_nil, false_imp_iff, implies_true, and_true]
  -- Both sides are the same conditions in another order, some of them repeated.
  tauto

private theorem forall_size_simple (hb : ¬ b.isRedundant) {size : UInt32} {p : UInt32 → Prop} :
    (∀ c ∈ [b.stage1, b.simpleImage size], ∀ n ∈ c.regions.map (·.size), p n) ↔
      p size ∧ ∀ n ∈ b.usedSizes, p n := by
  simp only [usedSizes, if_neg hb, List.forall_mem_cons, sizes_stage1, sizes_simpleImage,
    List.forall_mem_append, List.not_mem_nil, false_imp_iff, implies_true, and_true]
  tauto

private theorem allocated_redundantImage (b : Board) :
    b.redundantImage.allocated = b.sizes.image := by
  rw [Container.allocated_eq_totalSize, sizes_redundantImage, BoardSizes.image]
  simp only [totalSize_cons, totalSize_nil]
  omega

private theorem allocated_simpleImage (hb : ¬ b.isRedundant)
    (hsize : b.sizes.stage1 < UInt32.size) :
    (b.simpleImage (UInt32.ofNat b.sizes.stage1)).allocated = totalSize b.usedSizes := by
  have hstage1 : (UInt32.ofNat b.sizes.stage1).toNat = b.sizes.stage1 :=
    UInt32.toNat_ofNat_of_lt' hsize
  have hparts : b.sizes.stage1 = b.sizes.reset.toNat + b.sizes.stage1a.toNat +
      b.sizes.stage1b.toNat := rfl
  rw [Container.allocated_eq_totalSize, sizes_simpleImage, usedSizes, if_neg hb]
  simp only [totalSize_append, totalSize_cons, totalSize_nil, hstage1]
  omega

private theorem stage1_le_totalSize (hb : ¬ b.isRedundant) :
    b.sizes.stage1 ≤ totalSize b.usedSizes := by
  rw [usedSizes, if_neg hb, BoardSizes.stage1]
  simp only [totalSize_append, totalSize_cons]
  omega

private theorem checkImage_iff {image : Container} (hfinal : t.final? = some image) :
    b.checkImage t = .ok () ↔ b.imageFault? image = none := by
  simp [checkImage_eq_ok_iff, hfinal]

/-- The areas of a redundant board in order, each one with its container and its size. -/
def filledAreas (b : Board) : List (Container × UInt32) :=
  [(b.topSwap .a, b.sizes.topSwap), (b.topSwap .b, b.sizes.topSwap),
    (b.redundantCopy .a, b.sizes.redundant), (b.redundantCopy .b, b.sizes.redundant),
    (b.nonRedundant, b.sizes.nonRedundant), (b.nonVolatile, b.sizes.nonVolatile)]

private theorem forall_hasRoom_redundant (hcontainers : t.containers = b.redundantContainers) :
    (∀ c ∈ t.containers, ∀ r ∈ c.regions, t.HasRoom r) ↔
      ∀ area ∈ b.filledAreas, area.1.allocated ≤ area.2.toNat := by
  have hleaves : ∀ c ∈ b.redundantContainers.dropLast, ∀ r ∈ c.regions, t.HasRoom r :=
    fun c hc r hr => LayoutTree.hasRoom_of_artifact (b.ofArtifacts_redundant c hc r hr).1
  have hsplit : t.containers = b.redundantContainers.dropLast ++ [b.redundantImage] := hcontainers
  have himage : b.redundantImage.regions =
      b.filledAreas.map fun area => (Region.ofContainer area.1.name area.2).atHead := rfl
  have hmem : ∀ area ∈ b.filledAreas, area.1 ∈ t.containers := by
    simp [hcontainers, filledAreas, redundantContainers]
  rw [hsplit, List.forall_mem_append, List.forall_mem_singleton, and_iff_right hleaves, himage,
    List.forall_mem_map]
  exact forall₂_congr fun area harea => LayoutTree.hasRoom_iff (hmem area harea) rfl

private theorem forall_hasRoom_simple (hsize : b.sizes.stage1 < UInt32.size)
    (hcontainers : t.containers = [b.stage1, b.simpleImage (UInt32.ofNat b.sizes.stage1)]) :
    ∀ c ∈ t.containers, ∀ r ∈ c.regions, t.HasRoom r := by
  have hstage1 : b.stage1.allocated = b.sizes.stage1 := by
    rw [Container.allocated_eq_totalSize, sizes_stage1, BoardSizes.stage1]
    simp only [totalSize_cons, totalSize_nil]
    omega
  have hfirst : t.HasRoom (Region.ofContainer stage1Name (UInt32.ofNat b.sizes.stage1)).exact := by
    have hmem : b.stage1 ∈ t.containers := by simp [hcontainers]
    refine (LayoutTree.hasRoom_iff hmem rfl).2 (hstage1.trans ?_).le
    exact (UInt32.toNat_ofNat_of_lt' hsize).symm
  have himage : ∀ r ∈ (b.simpleImage (UInt32.ofNat b.sizes.stage1)).regions,
      r = (Region.ofContainer stage1Name (UInt32.ofNat b.sizes.stage1)).exact ∨
        r.source = .artifact r.name := by
    simp only [simpleImage_eq, List.forall_mem_append, List.forall_mem_cons,
      forall_mem_optionalRegion]
    simp [Region.ofArtifact, Region.exact, Region.withCodec]
  rw [hcontainers, List.forall_mem_cons, List.forall_mem_singleton]
  constructor
  · exact fun r hr => LayoutTree.hasRoom_of_artifact (b.ofArtifacts_stage1 r hr).1
  · intro r hr
    rcases himage r hr with rfl | hartifact
    · exact hfirst
    · exact LayoutTree.hasRoom_of_artifact hartifact

theorem names_of_containers {cs : List Container} (h : b.containers = .ok cs) :
    cs.map (·.name) = b.partNames ++ [b.imageName] := by
  by_cases hb : b.isRedundant
  · rw [redundant_of_containers h hb, partNames, if_pos hb]
    rfl
  · rw [(simple_of_containers h hb).2, partNames, if_neg hb]
    rfl

private theorem nodup_partNames (b : Board) : b.partNames.Nodup := by
  unfold partNames
  split <;> decide

private theorem plainName_partNames (b : Board) : ∀ name ∈ b.partNames, PlainName name := by
  simp only [← isFileName_iff, partNames]
  split <;> decide

private theorem exists_layout (hown : b.imageName ∉ b.partNames)
    (hstage1 : ¬ b.isRedundant → b.sizes.stage1 < UInt32.size) : ∃ t, b.layout = .ok t := by
  obtain ⟨cs, hcs⟩ : ∃ cs, b.containers = .ok cs := by
    by_cases hb : b.isRedundant
    · exact ⟨_, if_pos hb⟩
    · exact ⟨_, (if_neg hb).trans (if_pos (hstage1 hb))⟩
  have hdistinct : ((b.emptyLayout.containers ++ cs).map (·.name)).Nodup := by
    change (cs.map (·.name)).Nodup
    rw [names_of_containers hcs]
    exact b.nodup_partNames.append (List.nodup_singleton _) (by simpa using hown)
  obtain ⟨t, ht⟩ := LayoutTree.exists_addAll hdistinct
  exact ⟨t, by rw [layout, hcs]; exact ht⟩

private theorem ownName_of_layout (h : b.layout = .ok t) : b.imageName ∉ b.partNames := by
  have hdistinct := t.distinct
  rw [names_of_containers (containers_of_layout h), List.nodup_append] at hdistinct
  exact fun hmem => hdistinct.2.2 b.imageName hmem b.imageName (List.mem_singleton_self _) rfl

theorem blockSize_of_layout (h : b.layout = .ok t) : t.blockSize = b.blockSize := by
  unfold layout at h
  split at h
  · cases h
  · exact LayoutTree.blockSize_of_addAll h

private theorem wellFormed_iff (h : b.layout = .ok t) :
    t.WellFormed ↔ 0 < b.blockSize.toNat ∧ PlainName b.imageName ∧
      (∀ c ∈ t.containers, ∀ n ∈ c.regions.map (·.size), WholeBlocks b.blockSize n.toNat) ∧
      ∀ c ∈ t.containers, ∀ r ∈ c.regions, t.HasRoom r := by
  have hcontainers := containers_of_layout h
  have hblock := blockSize_of_layout h
  have hnames := names_of_containers hcontainers
  have himage : b.imageName ∈ t.containers.map (·.name) := by simp [hnames]
  have hshape : ∀ c ∈ t.containers, WellShaped c := by
    by_cases hb : b.isRedundant
    · exact redundant_of_containers hcontainers hb ▸ b.wellShaped_redundant
    · exact (simple_of_containers hcontainers hb).2 ▸ b.wellShaped_simple _
  constructor
  · intro hwell
    refine ⟨hblock ▸ hwell.blockSize_pos, ?_, fun c hc => ?_, fun c hc r hr => ?_⟩
    · obtain ⟨c, hc, hname⟩ := List.mem_map.1 himage
      exact hname ▸ hwell.plainName c hc
    · rw [List.forall_mem_map]
      exact fun r hr => hblock ▸ (LayoutTree.regionFits_iff.1 (hwell.regionFits c hc r hr)).1
    · exact (LayoutTree.regionFits_iff.1 (hwell.regionFits c hc r hr)).2
  · rintro ⟨hpos, hplain, hblocks, hroom⟩
    have hplainNames : ∀ c ∈ t.containers, PlainName c.name := by
      refine List.forall_mem_map.1 ?_
      rw [hnames, List.forall_mem_append, List.forall_mem_singleton]
      exact ⟨b.plainName_partNames, hplain⟩
    exact {
      blockSize_pos := hblock ▸ hpos
      containers_ne_nil := by
        intro hnil
        simp [hnil] at himage
      plainName := hplainNames
      regions_ne_nil := fun c hc => (hshape c hc).1
      regions_distinct := fun c hc => (hshape c hc).2
      regionFits := fun c hc r hr => LayoutTree.regionFits_iff.2
        ⟨hblock ▸ hblocks c hc r.size (List.mem_map_of_mem hr), hroom c hc r hr⟩
      acyclic := acyclic_of_layout h }

private theorem imageFault?_redundant (hb : b.isRedundant) :
    b.imageFault? b.redundantImage = none ↔ b.sizes.image = b.flashSize.toNat := by
  simp [imageFault?, hb, allocated_redundantImage]

private theorem imageFault?_simple (hb : ¬ b.isRedundant) (image : Container) :
    b.imageFault? image = none ↔ image.allocated ≤ b.sizes.nonRedundant.toNat := by
  simp [imageFault?, hb]

private theorem areasFit_iff : b.AreasFit ↔
    (∀ area ∈ b.filledAreas, area.1.allocated ≤ area.2.toNat) ∧
      b.sizes.image = b.flashSize.toNat := by
  have htopSwap (k : BoardCopy) : (b.topSwap k).allocated =
      totalSize [b.sizes.reset, b.sizes.stage1a] := Container.allocated_eq_totalSize _
  have hcopy (k : BoardCopy) : (b.redundantCopy k).allocated =
      totalSize ([b.sizes.stage1b, b.sizes.stage2, b.sizes.configData, b.sizes.keyHash] ++
        b.updateSize) := by
    rw [Container.allocated_eq_totalSize, sizes_redundantCopy]
    simp only [totalSize_append, totalSize_cons, totalSize_nil]
    omega
  have hnonRedundant : b.nonRedundant.allocated =
      totalSize ([b.sizes.variableStore, b.sizes.payload] ++ b.extraSize) := by
    rw [Container.allocated_eq_totalSize, sizes_nonRedundant]
  have hnonVolatile : b.nonVolatile.allocated = b.sizes.reserved.toNat := Nat.add_zero _
  have hflash : b.sizes.image = 2 * b.sizes.topSwap.toNat + 2 * b.sizes.redundant.toNat +
      b.sizes.nonRedundant.toNat + b.sizes.nonVolatile.toNat := by
    rw [BoardSizes.image]
    omega
  simp only [filledAreas, List.forall_mem_cons, htopSwap, hcopy, hnonRedundant, hnonVolatile,
    hflash]
  constructor
  · exact fun h => ⟨⟨h.topSwap, h.topSwap, h.redundant, h.redundant, h.nonRedundant,
      h.nonVolatile, List.forall_mem_nil _⟩, h.flash⟩
  · rintro ⟨⟨htop, -, hcopies, -, hnon, hlast, -⟩, hsum⟩
    exact ⟨htop, hcopies, hnon, hlast, hsum⟩

private theorem accepted_iff_of_redundant (h : b.layout = .ok t) (hb : b.isRedundant) :
    b.checkImage t = .ok () ∧ t.WellFormed ↔
      0 < b.blockSize.toNat ∧ PlainName b.imageName ∧
        (∀ n ∈ b.usedSizes, WholeBlocks b.blockSize n.toNat) ∧ b.AreasFit := by
  have hcontainers : t.containers = b.redundantContainers :=
    redundant_of_containers (containers_of_layout h) hb
  have hfinal : t.final? = some b.redundantImage := by
    rw [LayoutTree.final?, hcontainers]
    rfl
  rw [checkImage_iff hfinal, imageFault?_redundant hb, wellFormed_iff h,
    forall_hasRoom_redundant hcontainers, hcontainers, forall_size_redundant hb, areasFit_iff]
  tauto

private theorem accepted_iff_of_simple (h : b.layout = .ok t) (hb : ¬ b.isRedundant) :
    b.checkImage t = .ok () ∧ t.WellFormed ↔
      0 < b.blockSize.toNat ∧ PlainName b.imageName ∧
        (∀ n ∈ b.usedSizes, WholeBlocks b.blockSize n.toNat) ∧
        totalSize b.usedSizes ≤ b.sizes.nonRedundant.toNat := by
  obtain ⟨hsize, hcontainers⟩ := simple_of_containers (containers_of_layout h) hb
  have hfinal : t.final? = some (b.simpleImage (UInt32.ofNat b.sizes.stage1)) := by
    rw [LayoutTree.final?, hcontainers]
    rfl
  have hroom := forall_hasRoom_simple hsize hcontainers
  rw [checkImage_iff hfinal, imageFault?_simple hb, allocated_simpleImage hb hsize,
    wellFormed_iff h, and_iff_left hroom, hcontainers, List.singleton_append, forall_size_simple hb]
  have hstage1 (hblocks : ∀ n ∈ b.usedSizes, WholeBlocks b.blockSize n.toNat) :
      WholeBlocks b.blockSize (UInt32.ofNat b.sizes.stage1).toNat := by
    rw [UInt32.toNat_ofNat_of_lt' hsize]
    simp only [usedSizes, if_neg hb, List.forall_mem_cons, List.forall_mem_append] at hblocks
    obtain ⟨⟨hreset, hstage1a, hstage1b, -⟩, -⟩ := hblocks
    exact (hreset.add hstage1a).add hstage1b
  tauto

private theorem accepted_iff_fits (h : b.layout = .ok t) :
    b.checkImage t = .ok () ∧ t.WellFormed ↔ b.Fits := by
  have hown := ownName_of_layout h
  by_cases hb : b.isRedundant
  · rw [accepted_iff_of_redundant h hb]
    constructor
    · rintro ⟨hpos, hplain, hblocks, hareas⟩
      exact ⟨hpos, hplain, hown, hblocks, fun _ => hareas, fun hnot => absurd hb hnot⟩
    · exact fun hfits =>
        ⟨hfits.blockSize_pos, hfits.plainName, hfits.wholeBlocks, hfits.areas hb⟩
  · rw [accepted_iff_of_simple h hb]
    constructor
    · rintro ⟨hpos, hplain, hblocks, himage⟩
      exact ⟨hpos, hplain, hown, hblocks, fun hredundant => absurd hredundant hb, fun _ => himage⟩
    · exact fun hfits =>
        ⟨hfits.blockSize_pos, hfits.plainName, hfits.wholeBlocks, hfits.image hb⟩

/-- A board is planned exactly if it fits. -/
theorem exists_plan_iff_fits (b : Board) : (∃ t, b.plan = .ok t) ↔ b.Fits := by
  constructor
  · rintro ⟨t, hplan⟩
    obtain ⟨hlayout, himage, hvalid⟩ := plan_eq_ok_iff.1 hplan
    exact (accepted_iff_fits hlayout).1 ⟨himage, .of_validate hvalid⟩
  · intro h
    have hstage1 (hb : ¬ b.isRedundant) : b.sizes.stage1 < UInt32.size :=
      ((stage1_le_totalSize hb).trans (h.image hb)).trans_lt b.sizes.nonRedundant.toNat_lt_size
    obtain ⟨t, hlayout⟩ := exists_layout h.ownName hstage1
    obtain ⟨himage, hwell⟩ := (accepted_iff_fits hlayout).2 h
    exact ⟨t, plan_eq_ok_iff.2 ⟨hlayout, himage, hwell.validate⟩⟩

/-- A top-swap block that is one byte too small for what stands in it does not fit. -/
example : ¬ { sample with sizes := { sample.sizes with topSwap := 1 } }.Fits :=
  fun h => absurd (h.areas rfl).topSwap (by decide)

end Board
end FlashImage
