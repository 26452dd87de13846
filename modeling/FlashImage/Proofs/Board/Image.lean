import FlashImage.Proofs.Board.Plan

/-!
What the image of a board is made of.

The image of a redundant board fills the flash with its areas, each of which ends with a container.
That of a simple board begins with the first stage and stays within the non-redundant area.
-/

set_option autoImplicit false
set_option relaxedAutoImplicit false

namespace FlashImage.Board

variable {b : Board} {t : LayoutTree} {store : ArtifactStore} {compress : Compressor}
  {files : Files → Prop} {w w' : Workspace} {out : StitchOutput}

/-- What a build that succeeds leaves: all containers of the layout, and each one is complete. -/
structure Finished (b : Board) (t : LayoutTree) (store : ArtifactStore) (compress : Compressor)
    (files : Files → Prop) (out : StitchOutput) : Prop where
  planned : b.Planned t
  names : out.containers.map (·.1) = t.names
  complete : ∀ c ∈ t.containers, ∃ data, out.get? c.name = some data ∧
    (b.job t store compress).Complete files out.memory c data

theorem finished_of_build (keeps : compress.Keeps files) (initial : files w.files)
    (call : b.build store compress w = (.ok out, w')) :
    ∃ t, b.plan = .ok t ∧ b.Finished t store compress files out := by
  obtain ⟨t, m, hplan, hall⟩ := of_build call
  have hplanned := planned_of_plan hplan
  have hkeeps : (b.job t store compress).Keeps files := keeps
  have hbuilt := StitchJob.built_of_stitchAll hkeeps initial hall
  refine ⟨t, hplan, hplanned, hbuilt.names, fun c hc => ?_⟩
  exact hbuilt.complete hc (hplanned.policy c hc)

theorem Finished.final (h : b.Finished t store compress files out) {c : Container}
    (hc : t.final? = some c) :
    ∃ image, out.final? = some (c.name, image) ∧ out.get? c.name = some image ∧
      (b.job t store compress).Complete files out.memory c image := by
  obtain ⟨data, hdata, hcomplete⟩ := h.complete c (List.mem_of_getLast? hc)
  have hname : (out.containers.map (·.1)).getLast? = some c.name := by
    rw [h.names, LayoutTree.names, List.getLast?_map]
    exact congrArg _ hc
  rw [List.getLast?_map] at hname
  obtain ⟨⟨name, image⟩, himage, heq⟩ := Option.map_eq_some_iff.1 hname
  cases heq
  have hdistinct : (out.containers.map (·.1)).Nodup := h.names ▸ t.distinct
  have hget := StitchOutput.get?_of_mem hdistinct (List.mem_of_getLast? himage)
  obtain rfl : data = image := Option.some.inj (hdata.symm.trans hget)
  exact ⟨data, himage, hdata, hcomplete⟩

/-- The areas of a redundant board in order, each one with the name of its container and its size.
-/
def areas (b : Board) : List (String × UInt32) :=
  [(BoardCopy.a.topSwapName, b.sizes.topSwap), (BoardCopy.b.topSwapName, b.sizes.topSwap),
    (BoardCopy.a.redundantName, b.sizes.redundant), (BoardCopy.b.redundantName, b.sizes.redundant),
    (nonRedundantName, b.sizes.nonRedundant), (nonVolatileName, b.sizes.nonVolatile)]

structure IsArea (pad : UInt8) (out : StitchOutput) (area : String × UInt32) (bytes : Bytes) :
    Prop where
  length : bytes.length = area.2.toNat
  container : ∃ n data, out.get? area.1 = some data ∧ bytes = List.replicate n pad ++ data

/-- The image of a redundant board is as long as the flash and consists of the areas. -/
structure FillsFlash (b : Board) (out : StitchOutput) (image : Bytes) : Prop where
  length : image.length = b.flashSize.toNat
  areas : ∃ blocks, image = blocks.flatten ∧ List.Forall₂ (IsArea b.padByte out) b.areas blocks

/-- The image of a simple board fits in the non-redundant area and begins with the first stage. -/
structure FitsNonRedundant (b : Board) (out : StitchOutput) (image : Bytes) : Prop where
  length_le : image.length ≤ b.sizes.nonRedundant.toNat
  stage1 : ∃ first, out.get? stage1Name = some first ∧ first.length = b.sizes.stage1 ∧
    image.take b.sizes.stage1 = first

theorem isArea_of_complete {image : Bytes}
    (h : (b.job t store compress).Complete files out.memory b.redundantImage image)
    {p : Placement} (hp : p ∈ b.redundantImage.placements) :
    IsArea b.padByte out (p.region.name, p.region.size) (p.bytes image) := by
  obtain ⟨content, hresolved, hfilled⟩ := h.placed p hp
  obtain ⟨hsource, hcodec, hposition, -⟩ :=
    b.redundantImage_regions p.region (Container.region_mem_of_mem_placementsFrom hp)
  obtain ⟨n, hbytes⟩ := hfilled.head hposition
  exact ⟨hfilled.length, n, content, hresolved.built? hsource hcodec, hbytes⟩

private theorem fillsFlash_of_complete {image : Bytes}
    (h : (b.job t store compress).Complete files out.memory b.redundantImage image)
    (hallocated : b.redundantImage.allocated = b.flashSize.toNat) : b.FillsFlash out image := by
  have hareas : b.areas = b.redundantImage.placements.map fun p =>
      (p.region.name, p.region.size) := rfl
  refine ⟨h.length.trans hallocated, b.redundantImage.placements.map (·.bytes image),
    (Container.flatten_placements h.length).symm, ?_⟩
  rw [hareas, List.forall₂_map_left_iff, List.forall₂_map_right_iff, List.forall₂_same]
  exact fun p hp => isArea_of_complete h hp

private theorem fitsNonRedundant_of_complete {image : Bytes} (hsize : b.sizes.stage1 < UInt32.size)
    (h : (b.job t store compress).Complete files out.memory
      (b.simpleImage (UInt32.ofNat b.sizes.stage1)) image)
    (hallocated : (b.simpleImage (UInt32.ofNat b.sizes.stage1)).allocated ≤
      b.sizes.nonRedundant.toNat) : b.FitsNonRedundant out image := by
  have hfirst : (⟨0, (Region.ofContainer stage1Name (UInt32.ofNat b.sizes.stage1)).exact⟩ :
      Placement) ∈ (b.simpleImage (UInt32.ofNat b.sizes.stage1)).placements := List.mem_cons_self
  obtain ⟨first, hresolved, hfilled⟩ := h.placed _ hfirst
  have hstage1 : (UInt32.ofNat b.sizes.stage1).toNat = b.sizes.stage1 :=
    UInt32.toNat_ofNat_of_lt' hsize
  have hbytes : image.take b.sizes.stage1 = first := by
    rw [← hfilled.exact rfl, Placement.bytes, List.drop_zero]
    exact congrArg (fun n => List.take n image) hstage1.symm
  refine ⟨h.length ▸ hallocated, first, hresolved.built? rfl rfl, ?_, hbytes⟩
  rw [← hfilled.exact rfl, hfilled.length]
  exact hstage1

/-- A build that succeeds gives an image as it was planned. The files may change within a property
that the compressor keeps; every compressor keeps the one that all files have. -/
theorem composition_of_build {b : Board} {store : ArtifactStore} {compress : Compressor}
    {files : Files → Prop} {w w' : Workspace} {out : StitchOutput} (keeps : compress.Keeps files)
    (initial : files w.files) (call : b.build store compress w = (.ok out, w')) :
    ∃ t c image, b.plan = .ok t ∧ t.final? = some c ∧ c.name = b.imageName ∧
      out.containers.map (·.1) = t.names ∧ out.final? = some (b.imageName, image) ∧
      image.length = c.allocated ∧
      (∀ d ∈ t.containers, ∃ data, out.get? d.name = some data ∧
        (b.job t store compress).Complete files out.memory d data) ∧
      (b.isRedundant → b.FillsFlash out image) ∧
      (¬ b.isRedundant → b.FitsNonRedundant out image) := by
  obtain ⟨t, hplan, hfinished⟩ := finished_of_build keeps initial call
  by_cases hb : b.isRedundant
  · obtain ⟨-, hfinal, hallocated⟩ := hfinished.planned.redundant hb
    obtain ⟨image, himage, -, hcomplete⟩ := hfinished.final hfinal
    refine ⟨t, _, image, hplan, hfinal, rfl, hfinished.names, himage, hcomplete.length,
      hfinished.complete, fun _ => ?_, fun hnot => absurd hb hnot⟩
    exact fillsFlash_of_complete hcomplete hallocated
  · obtain ⟨hsize, -, hfinal, hallocated⟩ := hfinished.planned.simple hb
    obtain ⟨image, himage, -, hcomplete⟩ := hfinished.final hfinal
    refine ⟨t, _, image, hplan, hfinal, rfl, hfinished.names, himage, hcomplete.length,
      hfinished.complete, fun hredundant => absurd hredundant hb, fun _ => ?_⟩
    exact fitsNonRedundant_of_complete hsize hcomplete hallocated

/-- With copies, most of the non-redundant area is padding. Without them the image is one byte
shorter than that area. -/
theorem composition_of_build_samples :
    let image : Bytes := [0x10, 0x1A] ++ [0x10, 0xA1] ++
      [0, 0x1B, 0, 0x20, 0, 0x30, 0x40, 0x50] ++ [0, 0xB1, 0, 0x20, 0, 0x30, 0x40, 0x50] ++
      (List.replicate 9 0xFF ++ [0x60, 0, 0x70]) ++ [0x80]
    let simpleImage : Bytes := [0x10, 0x1A, 0, 0x1B] ++ [0, 0x20, 0x40, 0, 0x70, 0x60, 0x80]
    (sample.build (sampleArtifacts true) sampleCompressor sampleWorkspace).1 =
        .ok (sampleOutput true) ∧
      sample.FillsFlash (sampleOutput true) image ∧
      (simpleSample.build (sampleArtifacts false) sampleCompressor sampleWorkspace).1 =
        .ok simpleSampleOutput ∧
      simpleSample.FitsNonRedundant simpleSampleOutput simpleImage := by
  have hkeeps : sampleCompressor.Keeps (· = sampleWorkspace.files) := fun _ _ _ hw => hw
  refine ⟨build_sample true, ?_, build_simpleSample, ?_⟩
  · obtain ⟨t, c, image, -, -, -, -, himage, -, -, hfills, -⟩ :=
      composition_of_build hkeeps rfl (Prod.ext (build_sample true) rfl)
    cases himage
    exact hfills rfl
  · obtain ⟨t, c, image, -, -, -, -, himage, -, -, -, hfits⟩ :=
      composition_of_build hkeeps rfl (Prod.ext build_simpleSample rfl)
    cases himage
    exact hfits (by decide)

end FlashImage.Board
