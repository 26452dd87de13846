import FlashImage.Proofs.Board.Image
import FlashImage.Proofs.Stitch.Meaning

/-!
The copies of a redundant board are independent of one another.

The artifacts of one copy are used by two containers only, and these fill two areas of the image. So
two builds that differ in nothing but these artifacts agree on all other containers and on the rest
of the image.
-/

set_option autoImplicit false
set_option relaxedAutoImplicit false

namespace FlashImage

def Compressor.ofFunction (compress : Codec → Bytes → Except Error Bytes) : Compressor :=
  fun codec raw => Build.ofExcept (compress codec raw)

private theorem Compressor.keeps_ofFunction (compress : Codec → Bytes → Except Error Bytes)
    (files : Files → Prop) : (ofFunction compress).Keeps files := by
  intro codec raw w hw
  rw [ofFunction, Build.ofExcept_eq]
  exact hw

namespace Board

variable {b : Board} {t : LayoutTree} {copy : BoardCopy} {store store' : ArtifactStore}
  {w w' : Workspace} {out out' : StitchOutput}

/-- A container that is not one of a copy, and not the image. -/
def Outside (b : Board) (copy : BoardCopy) (name : String) : Prop :=
  name ≠ copy.topSwapName ∧ name ≠ copy.redundantName ∧ name ≠ b.imageName

/-- An artifact that is not one of a copy. -/
def Shared (copy : BoardCopy) (artifact : String) : Prop :=
  artifact ≠ copy.stage1aName ∧ artifact ≠ copy.stage1bName

/-- An offset in one of the two areas of a copy. -/
def InAreas (b : Board) (copy : BoardCopy) (k : Nat) : Prop :=
  let topSwap := b.sizes.topSwap.toNat
  let redundant := b.sizes.redundant.toNat
  match copy with
  | .a => k < topSwap ∨ 2 * topSwap ≤ k ∧ k < 2 * topSwap + redundant
  | .b => topSwap ≤ k ∧ k < 2 * topSwap ∨
      2 * topSwap + redundant ≤ k ∧ k < 2 * topSwap + 2 * redundant

private theorem shared_of_outside {c : Container} (hc : c ∈ b.redundantContainers.dropLast)
    (houtside : b.Outside copy c.name) : ∀ r ∈ c.regions, Shared copy r.name := by
  simp only [redundantContainers, List.dropLast, List.mem_cons, List.not_mem_nil, or_false] at hc
  obtain ⟨htopSwap, hredundant, -⟩ := houtside
  rcases hc with rfl | rfl | rfl | rfl | rfl | rfl
  all_goals
    simp only [nonVolatile, nonRedundant, redundantCopy, topSwap, List.forall_mem_cons,
      List.forall_mem_append, forall_mem_optionalRegion]
    cases copy
  -- Two of the containers are those of the copy, and the names of all others are compared.
  all_goals first
    | exact absurd rfl htopSwap
    | exact absurd rfl hredundant
    | simp [Region.ofArtifact, Region.exact, Region.atHead, Region.withCodec, Shared,
        resetVectorName, BoardCopy.stage1aName, BoardCopy.stage1bName, BoardCopy.letter]

private theorem inAreas_of_covers {p : Placement} (hp : p ∈ b.redundantImage.placements)
    (hname : p.region.name = copy.topSwapName ∨ p.region.name = copy.redundantName) {k : Nat}
    (hk : p.Covers k) : b.InAreas copy k := by
  simp only [Container.placements, redundantImage, Container.placementsFrom, List.mem_cons,
    List.not_mem_nil, or_false, Region.ofContainer, Region.atHead] at hp
  rcases hp with rfl | rfl | rfl | rfl | rfl | rfl
  all_goals cases copy
  -- A name says to which copy an area belongs, if to any.
  all_goals
    simp [BoardCopy.topSwapName, BoardCopy.redundantName, BoardCopy.letter, nonRedundantName,
      nonVolatileName] at hname
  all_goals
    obtain ⟨hlow, hhigh⟩ := hk
    simp only [InAreas] at hlow hhigh ⊢
    omega

private theorem IsArea.eq_of_get? {pad : UInt8} {area : String × UInt32} {bytes bytes' : Bytes}
    (h : IsArea pad out area bytes) (h' : IsArea pad out' area bytes')
    (hget : out.get? area.1 = out'.get? area.1) : bytes = bytes' := by
  obtain ⟨hlength, n, data, hdata, rfl⟩ := h
  obtain ⟨hlength', n', data', hdata', rfl⟩ := h'
  obtain rfl : data = data' := Option.some.inj (hdata.symm.trans (hget.trans hdata'))
  have hpadding : n = n' := by
    simp only [List.length_append, List.length_replicate] at hlength hlength'
    omega
  rw [hpadding]

def setting (b : Board) (t : LayoutTree) (store : ArtifactStore) (files : Files)
    (compress : Codec → Bytes → Except Error Bytes) : StitchSetting :=
  ⟨t, store, files, compress, b.padByte⟩

private theorem meaning_of_build {compress : Codec → Bytes → Except Error Bytes}
    (hplan : b.plan = .ok t)
    (call : b.build store (.ofFunction compress) w = (.ok out, w')) :
    out.containers.map (·.1) = t.names ∧ ∀ name data, out.get? name = some data →
      (b.setting t store w.files compress).meaning name = .ok data := by
  obtain ⟨t', m, hplan', hall⟩ := of_build call
  obtain rfl : t = t' := Except.ok.inj (hplan.symm.trans hplan')
  exact StitchSetting.meaning_of_stitchAll (s := b.setting t store w.files compress) rfl hall

private theorem agreesBelow_of_outside (planned : b.Planned t) (redundant : b.isRedundant)
    (loads : ∀ artifact, Shared copy artifact →
      store.load w.files artifact = store'.load w'.files artifact)
    (compress : Codec → Bytes → Except Error Bytes) {c : Container} (hc : c ∈ t.containers)
    (houtside : b.Outside copy c.name) :
    (b.setting t store w.files compress).AgreesBelow (b.setting t store' w'.files compress)
      c.name := by
  have hleaf : c ∈ b.redundantContainers.dropLast := by
    rw [redundant_of_containers planned.containers redundant, List.mem_append,
      List.mem_singleton] at hc
    exact hc.resolve_right fun himage => houtside.2.2 (himage ▸ rfl)
  have hartifacts := b.ofArtifacts_redundant c hleaf
  refine ⟨rfl, rfl, fun x hx => ?_⟩
  obtain rfl := LayoutTree.eq_of_reaches hc hartifacts hx
  refine ⟨rfl, fun d hd r hr artifact hsource => ?_⟩
  obtain rfl : c = d := Option.some.inj ((LayoutTree.find?_name hc).symm.trans hd)
  rw [(hartifacts r hr).1] at hsource
  cases hsource
  exact loads r.name (shared_of_outside hleaf houtside r hr)

private theorem Planned.name_ne_imageName (planned : b.Planned t) (redundant : b.isRedundant)
    {r : Region}
    (hr : r ∈ b.redundantImage.regions) : r.name ≠ b.imageName := by
  intro hname
  have hfind : t.find? b.imageName = some b.redundantImage :=
    LayoutTree.find?_name (List.mem_of_getLast? (planned.redundant redundant).2.1)
  have hself : t.Embeds b.imageName r.name :=
    LayoutTree.embeds_of_region hfind hr (b.redundantImage_regions r hr).1
  rw [hname] at hself
  exact (LayoutTree.WellFormed.of_validate planned.valid).acyclic _ (.single hself)

private theorem getElem?_image_of_get? {image image' : Bytes} {files files' : Files → Prop}
    {compress compress' : Compressor}
    (hcomplete : (b.job t store compress).Complete files out.memory b.redundantImage image)
    (hcomplete' : (b.job t store' compress').Complete files' out'.memory b.redundantImage image')
    (houtside : ∀ r ∈ b.redundantImage.regions, r.name ≠ copy.topSwapName →
      r.name ≠ copy.redundantName → out.get? r.name = out'.get? r.name)
    {k : Nat} (hk : ¬ b.InAreas copy k) : image[k]? = image'[k]? := by
  by_cases hlength : k < b.redundantImage.allocated
  · obtain ⟨p, hp, hcovers⟩ := Container.exists_covers hlength
    have htopSwap : p.region.name ≠ copy.topSwapName := fun hname =>
      hk (inAreas_of_covers hp (.inl hname) hcovers)
    have hredundant : p.region.name ≠ copy.redundantName := fun hname =>
      hk (inAreas_of_covers hp (.inr hname) hcovers)
    have hget := houtside p.region (Container.region_mem_of_mem_placementsFrom hp) htopSwap
      hredundant
    have hbytes : p.bytes image = p.bytes image' :=
      (isArea_of_complete hcomplete hp).eq_of_get? (isArea_of_complete hcomplete' hp) hget
    rw [← Placement.getElem?_bytes hcovers, ← Placement.getElem?_bytes hcovers, hbytes]
  · rw [List.getElem?_eq_none (hcomplete.length ▸ Nat.not_lt.1 hlength),
      List.getElem?_eq_none (hcomplete'.length ▸ Nat.not_lt.1 hlength)]

/-- Two builds of a redundant board, with artifacts that differ in those of one copy only, give the
same containers but for the two of that copy and the image, and images that are the same outside the
two areas of that copy. -/
theorem isolated_of_build {b : Board} {copy : BoardCopy}
    {compress : Codec → Bytes → Except Error Bytes} {store store' : ArtifactStore}
    {w w' w₁ w₁' : Workspace} {out out' : StitchOutput} (redundant : b.isRedundant)
    (loads : ∀ artifact, artifact ≠ copy.stage1aName → artifact ≠ copy.stage1bName →
      store.load w.files artifact = store'.load w'.files artifact)
    (call : b.build store (.ofFunction compress) w = (.ok out, w₁))
    (call' : b.build store' (.ofFunction compress) w' = (.ok out', w₁')) :
    (∀ name, name ≠ copy.topSwapName → name ≠ copy.redundantName → name ≠ b.imageName →
      out.get? name = out'.get? name) ∧
    ∃ image image', out.final? = some (b.imageName, image) ∧
      out'.final? = some (b.imageName, image') ∧
      ∀ k, ¬ b.InAreas copy k → image[k]? = image'[k]? := by
  have hkeeps := Compressor.keeps_ofFunction compress fun _ => True
  obtain ⟨t, hplan, hfinished⟩ := finished_of_build hkeeps trivial call
  obtain ⟨t', hplan', hfinished'⟩ := finished_of_build hkeeps trivial call'
  obtain rfl : t = t' := Except.ok.inj (hplan.symm.trans hplan')
  obtain ⟨hnames, hmeaning⟩ := meaning_of_build hplan call
  obtain ⟨hnames', hmeaning'⟩ := meaning_of_build hplan call'
  have houtside (name : String) (hname : b.Outside copy name) : out.get? name = out'.get? name := by
    by_cases hmem : name ∈ t.names
    · obtain ⟨c, hc, rfl⟩ := List.mem_map.1 hmem
      obtain ⟨data, hdata, -⟩ := hfinished.complete c hc
      obtain ⟨data', hdata', -⟩ := hfinished'.complete c hc
      have hagrees := agreesBelow_of_outside hfinished.planned redundant
        (fun artifact hshared => loads artifact hshared.1 hshared.2) compress hc hname
      have hcongr := StitchSetting.meaning_congr hagrees
      rw [hmeaning _ _ hdata, hmeaning' _ _ hdata'] at hcongr
      rw [hdata, hdata', Except.ok.inj hcongr]
    · rw [StitchOutput.get?_eq_none (hnames ▸ hmem), StitchOutput.get?_eq_none (hnames' ▸ hmem)]
  refine ⟨fun name htopSwap hredundant himage => houtside name ⟨htopSwap, hredundant, himage⟩, ?_⟩
  obtain ⟨-, hfinal, -⟩ := hfinished.planned.redundant redundant
  obtain ⟨image, himage, -, hcomplete⟩ := hfinished.final hfinal
  obtain ⟨image', himage', -, hcomplete'⟩ := hfinished'.final hfinal
  refine ⟨image, image', himage, himage', fun k hk => ?_⟩
  refine getElem?_image_of_get? hcomplete hcomplete' (fun r hr htopSwap hredundant => ?_) hk
  exact houtside r.name ⟨htopSwap, hredundant, hfinished.planned.name_ne_imageName redundant hr⟩

theorem isolated_of_build_sample :
    (∀ changed, (sample.build (sampleArtifacts changed) sampleCompressor sampleWorkspace).1 =
      .ok (sampleOutput changed)) ∧
    (∀ name, name ≠ "TOP_SWAP_B.bin" → name ≠ "REDUNDANT_B.bin" → name ≠ "IMAGE" →
      (sampleOutput false).get? name = (sampleOutput true).get? name) ∧
    ∃ image image', (sampleOutput false).final? = some ("IMAGE", image) ∧
      (sampleOutput true).final? = some ("IMAGE", image') ∧ image ≠ image' ∧
      ∀ k, ¬ sample.InAreas .b k → image[k]? = image'[k]? := by
  have hloads : ∀ artifact, artifact ≠ BoardCopy.b.stage1aName →
      artifact ≠ BoardCopy.b.stage1bName →
      (sampleArtifacts false).load sampleWorkspace.files artifact =
        (sampleArtifacts true).load sampleWorkspace.files artifact := by
    intro artifact hstage1a hstage1b
    have hstage1a : (artifact == "STAGE1A_B.fd") = false := beq_eq_false_iff_ne.2 hstage1a
    have hstage1b : (artifact == "STAGE1B_B.fd") = false := beq_eq_false_iff_ne.2 hstage1b
    have hblob :
        (sampleArtifacts false).blob? artifact = (sampleArtifacts true).blob? artifact := by
      simp only [ArtifactStore.blob?, sampleArtifacts, List.lookup_cons, hstage1a, hstage1b]
    simp only [ArtifactStore.load, hblob]
    rfl
  let compress : Codec → Bytes → Except Error Bytes := fun _ raw => .ok (0 :: raw)
  have hcall (changed : Bool) :
      ∃ w', sample.build (sampleArtifacts changed) (.ofFunction compress) sampleWorkspace =
        (.ok (sampleOutput changed), w') :=
    ⟨_, Prod.ext (build_sample changed) rfl⟩
  obtain ⟨w₁, hunchanged⟩ := hcall false
  obtain ⟨w₂, hchanged⟩ := hcall true
  obtain ⟨hcontainers, image, image', himage, himage', hbytes⟩ :=
    isolated_of_build rfl hloads hunchanged hchanged
  refine ⟨build_sample, hcontainers, image, image', himage, himage', ?_, hbytes⟩
  cases himage
  cases himage'
  decide

end Board
end FlashImage
