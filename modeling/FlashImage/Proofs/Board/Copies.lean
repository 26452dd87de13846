import FlashImage.Proofs.Board.Plan
import FlashImage.Proofs.Stitch.Locality

/-!
The two copies of a redundant board are made in the same way.

Their regions correspond one by one: each pair is the same but for the name of one artifact. So if
the artifacts of such a pair load alike, both copies have the same bytes, or they fail alike, with
errors in which only names can differ.
-/

set_option autoImplicit false
set_option relaxedAutoImplicit false

namespace FlashImage

/-- Two errors are the same, or the same but for the names of containers, regions and artifacts. -/
inductive Error.SameButNames : Error → Error → Prop
  | same (e : Error) : SameButNames e e
  | region {container container' region region' : String} {fault : RegionFault} :
      SameButNames (.region container region fault) (.region container' region' fault)
  | missingArtifact {container container' region region' artifact artifact' : String} :
      SameButNames (.missingArtifact container region artifact)
        (.missingArtifact container' region' artifact')
  | sizeViolation {container container' region region' : String} {actual : Nat}
      {allocated : UInt32} {policy : PaddingPolicy} :
      SameButNames (.sizeViolation container region actual allocated policy)
        (.sizeViolation container' region' actual allocated policy)

/-- Two steps succeed with the same result, or both fail, with errors that differ in names only. -/
inductive SameResult {α : Type} : Except Error α → Except Error α → Prop
  | ok (a : α) : SameResult (.ok a) (.ok a)
  | error {e e' : Error} (h : e.SameButNames e') : SameResult (.error e) (.error e')

namespace SameResult

variable {α β : Type} {x x' : Except Error α} {f f' : α → Except Error β}

theorem refl (x : Except Error α) : SameResult x x := by
  cases x with
  | ok a => exact .ok a
  | error e => exact .error (.same e)

theorem bind (h : SameResult x x') (hf : ∀ a, SameResult (f a) (f' a)) :
    SameResult (x >>= f) (x' >>= f') := by
  cases h with
  | ok a => exact hf a
  | error h => exact .error h

end SameResult

structure Region.Like (r r' : Region) : Prop where
  size : r.size = r'.size
  codec : r.codec = r'.codec
  policy : r.policy = r'.policy
  position : r.position = r'.position

structure Placement.Like (p p' : Placement) : Prop where
  offset : p.offset = p'.offset
  region : p.region.Like p'.region

namespace Region

variable {r r' : Region}

theorem Like.refl (r : Region) : r.Like r := ⟨rfl, rfl, rfl, rfl⟩

theorem Like.place (h : r.Like r') (container container' : String) (content : Bytes) (pad : UInt8) :
    SameResult (r.place container content pad) (r'.place container' content pad) := by
  obtain ⟨size, -, policy, position⟩ := h
  have hviolation :
      (r.sizeViolation container content).SameButNames (r'.sizeViolation container' content) := by
    unfold sizeViolation
    rw [size, policy]
    exact .sizeViolation
  unfold Region.place
  rw [← size, ← policy, ← position]
  split
  · split
    · exact .ok _
    · exact .error hviolation
  · split
    · exact .ok _
    · exact .error hviolation

end Region

private theorem Container.placementsFrom_like {regions regions' : List Region}
    (h : List.Forall₂ Region.Like regions regions') (offset : Nat) :
    List.Forall₂ Placement.Like (placementsFrom offset regions)
      (placementsFrom offset regions') := by
  induction h generalizing offset with
  | nil => exact .nil
  | cons hfirst _ ih =>
    apply List.Forall₂.cons
    · exact ⟨rfl, hfirst⟩
    · rw [hfirst.size]
      exact ih _

namespace StitchSetting

variable {s : StitchSetting} {path path' : List String} {container container' : String}

/-- Two regions that are alike have artifacts that load alike. -/
structure Alike (s : StitchSetting) (r r' : Region) : Prop where
  like : r.Like r'
  artifacts : ∃ artifact artifact', r.source = .artifact artifact ∧
    r'.source = .artifact artifact' ∧
    s.store.load s.files artifact = s.store.load s.files artifact'

theorem Alike.content {r r' : Region} (h : s.Alike r r') :
    SameResult (s.contentBelow path container r) (s.contentBelow path' container' r') := by
  obtain ⟨artifact, artifact', source, source', load⟩ := h.artifacts
  rw [contentBelow_of_artifact source, contentBelow_of_artifact source']
  unfold artifactContent
  rw [← load, ← h.like.codec, ← h.like.policy]
  split
  · exact .error (.same _)
  · exact SameResult.refl _
  · split
    · exact .ok none
    · exact .error .missingArtifact

theorem Alike.slot {r r' : Region} (h : s.Alike r r') (content : Option Bytes) :
    SameResult (s.job.slot container r content) (s.job.slot container' r' content) := by
  cases content with
  | none => exact .ok []
  | some content => exact h.like.place container container' content s.pad

theorem Alike.meaningOfRegion {r r' : Region} (h : s.Alike r r') :
    SameResult (s.meaningOfRegion path container r) (s.meaningOfRegion path' container' r') := by
  by_cases hsize : r.size = 0
  · have hsize' : r'.size = 0 := h.like.size ▸ hsize
    rw [StitchSetting.meaningOfRegion, StitchSetting.meaningOfRegion, if_pos hsize, if_pos hsize']
    exact .error .region
  · have hsize' : r'.size ≠ 0 := h.like.size ▸ hsize
    rw [meaningOfRegion_of_size hsize, meaningOfRegion_of_size hsize']
    exact h.content.bind h.slot

private theorem sameResult_meaningOfRegions {regions regions' : List Region}
    (h : List.Forall₂ s.Alike regions regions') :
    SameResult (s.meaningOfRegions path container regions)
      (s.meaningOfRegions path' container' regions') := by
  induction h with
  | nil =>
    rw [meaningOfRegions, meaningOfRegions]
    exact .ok []
  | cons hfirst _ ih =>
    rw [meaningOfRegions_cons, meaningOfRegions_cons]
    apply hfirst.meaningOfRegion.bind
    intro first
    apply ih.bind
    intro others
    exact .ok _

private theorem sameResult_meaning {name name' : String} {c c' : Container}
    (hc : s.tree.find? name = some c) (hc' : s.tree.find? name' = some c')
    (h : List.Forall₂ s.Alike c.regions c'.regions) :
    SameResult (s.meaning name) (s.meaning name') := by
  rw [meaning, meaning, meaningBelow_eq, meaningBelow_eq, if_neg List.not_mem_nil,
    if_neg List.not_mem_nil]
  simp only [hc, hc']
  exact sameResult_meaningOfRegions h

end StitchSetting

namespace Board

variable {b : Board} {s : StitchSetting}

structure Corresponds (first second : String) (r r' : Region) : Prop where
  like : r.Like r'
  names : r.name = r'.name ∨ r.name = first ∧ r'.name = second

theorem Corresponds.refl (first second : String) (r : Region) : Corresponds first second r r :=
  ⟨.refl r, .inl rfl⟩

private theorem corresponds_redundantCopy (b : Board) :
    List.Forall₂ (Corresponds BoardCopy.a.stage1bName BoardCopy.b.stage1bName)
      (b.redundantCopy .a).regions (b.redundantCopy .b).regions := by
  apply List.Forall₂.cons
  · exact ⟨⟨rfl, rfl, rfl, rfl⟩, .inr ⟨rfl, rfl⟩⟩
  · exact List.forall₂_same.2 fun r _ => .refl _ _ r

private theorem corresponds_topSwap (b : Board) :
    List.Forall₂ (Corresponds BoardCopy.a.stage1aName BoardCopy.b.stage1aName)
      (b.topSwap .a).regions (b.topSwap .b).regions := by
  apply List.Forall₂.cons
  · exact .refl _ _ _
  · apply List.Forall₂.cons
    · exact ⟨⟨rfl, rfl, rfl, rfl⟩, .inr ⟨rfl, rfl⟩⟩
    · exact .nil

private theorem Corresponds.alike {first second : String} {c c' : Container} (hc : c.OfArtifacts)
    (hc' : c'.OfArtifacts)
    (h : List.Forall₂ (Corresponds first second) c.regions c'.regions)
    (load : s.store.load s.files first = s.store.load s.files second) :
    List.Forall₂ s.Alike c.regions c'.regions := by
  rw [List.forall₂_iff_get] at h ⊢
  refine ⟨h.1, ?_⟩
  intro i hi hi'
  obtain ⟨like, names⟩ := h.2 i hi hi'
  have source := (hc _ (List.getElem_mem hi)).1
  have source' := (hc' _ (List.getElem_mem hi')).1
  refine ⟨like, _, _, source, source', ?_⟩
  rcases names with heq | ⟨hfirst, hsecond⟩
  · exact congrArg _ heq
  · exact (congrArg _ hfirst).trans (load.trans (congrArg _ hsecond).symm)

theorem find?_copies (redundant : b.isRedundant) {t : LayoutTree} (layout : b.layout = .ok t)
    (copy : BoardCopy) :
    t.find? copy.redundantName = some (b.redundantCopy copy) ∧
      t.find? copy.topSwapName = some (b.topSwap copy) := by
  have hcontainers := redundant_of_containers (containers_of_layout layout) redundant
  have hfind (c : Container) (hc : c ∈ b.redundantContainers.dropLast) :
      t.find? c.name = some c := by
    apply LayoutTree.find?_name
    rw [hcontainers]
    exact List.mem_append_left _ hc
  constructor
  · apply hfind (b.redundantCopy copy)
    cases copy <;> simp [redundantContainers]
  · apply hfind (b.topSwap copy)
    cases copy <;> simp [redundantContainers]

/-- If the artifacts of stage 1B of both copies load alike, both copies of the stages have the same
bytes or fail alike, whatever the stitchers have been called for before; so have the top-swap blocks
if those of stage 1A load alike. The regions of the copies are laid out in the same way in any case.
-/
theorem same_of_copies {m m' : StitchMemory} {w w' : Workspace} (redundant : b.isRedundant)
    (layout : b.layout = .ok s.tree) (reachable : s.job.Reachable (· = s.files) m w)
    (reachable' : s.job.Reachable (· = s.files) m' w') :
    (s.store.load s.files BoardCopy.a.stage1bName = s.store.load s.files BoardCopy.b.stage1bName →
      SameResult (s.job.stitch BoardCopy.a.redundantName m w).1.1
        (s.job.stitch BoardCopy.b.redundantName m' w').1.1) ∧
    (s.store.load s.files BoardCopy.a.stage1aName = s.store.load s.files BoardCopy.b.stage1aName →
      SameResult (s.job.stitch BoardCopy.a.topSwapName m w).1.1
        (s.job.stitch BoardCopy.b.topSwapName m' w').1.1) ∧
    (∃ first second, s.tree.find? BoardCopy.a.redundantName = some first ∧
      s.tree.find? BoardCopy.b.redundantName = some second ∧
      List.Forall₂ Placement.Like first.placements second.placements) ∧
    ∃ first second, s.tree.find? BoardCopy.a.topSwapName = some first ∧
      s.tree.find? BoardCopy.b.topSwapName = some second ∧
      List.Forall₂ Placement.Like first.placements second.placements := by
  obtain ⟨hfirst, hfirstTop⟩ := find?_copies redundant layout .a
  obtain ⟨hsecond, hsecondTop⟩ := find?_copies redundant layout .b
  have hartifacts := b.ofArtifacts_redundant
  have hcopies := b.corresponds_redundantCopy
  have htops := b.corresponds_topSwap
  refine ⟨?copies, ?tops, ⟨_, _, hfirst, hsecond, ?_⟩, ⟨_, _, hfirstTop, hsecondTop, ?_⟩⟩
  case copies =>
    intro load
    rw [StitchSetting.stitch_of_reachable reachable, StitchSetting.stitch_of_reachable reachable']
    apply StitchSetting.sameResult_meaning hfirst hsecond
    apply Corresponds.alike _ _ hcopies load
    · exact hartifacts _ (by simp [redundantContainers])
    · exact hartifacts _ (by simp [redundantContainers])
  case tops =>
    intro load
    rw [StitchSetting.stitch_of_reachable reachable, StitchSetting.stitch_of_reachable reachable']
    apply StitchSetting.sameResult_meaning hfirstTop hsecondTop
    apply Corresponds.alike _ _ htops load
    · exact hartifacts _ (by simp [redundantContainers])
    · exact hartifacts _ (by simp [redundantContainers])
  · exact Container.placementsFrom_like (hcopies.imp fun _ _ h => h.like) 0
  · exact Container.placementsFrom_like (htops.imp fun _ _ h => h.like) 0

def sampleSetting (store : ArtifactStore) : StitchSetting where
  tree := sampleLayout
  store := store
  files := sampleWorkspace.files
  compress := fun _ raw => .ok (0 :: raw)
  pad := 0xFF

private theorem meaning_sampleSetting (store : ArtifactStore) :
    (sampleSetting store).meaning "REDUNDANT_A.bin" =
      (sampleSetting store).meaningOfRegions ["REDUNDANT_A.bin"] "REDUNDANT_A.bin"
        (sample.redundantCopy .a).regions := by
  have hfind : (sampleSetting store).tree.find? "REDUNDANT_A.bin" =
      some (sample.redundantCopy .a) := (find?_copies rfl rfl .a).1
  rw [StitchSetting.meaning, StitchSetting.meaningBelow_eq, if_neg List.not_mem_nil]
  simp only [hfind]
  rfl

/-- After the first copy the second one has the same bytes, and without any artifacts both copies
fail on their first region. -/
theorem same_of_copies_sample :
    let full := (sampleSetting (sampleArtifacts false)).job
    let bare := (sampleSetting ⟨[], []⟩).job
    let left := full.stitch "REDUNDANT_A.bin" .empty sampleWorkspace
    sample.layout = .ok sampleLayout ∧
      left.1.1 = .ok [0, 0x1B, 0, 0x20, 0, 0x30, 0x40, 0x50] ∧
      SameResult left.1.1 (full.stitch "REDUNDANT_B.bin" left.1.2 left.2).1.1 ∧
      (bare.stitch "REDUNDANT_A.bin" .empty sampleWorkspace).1.1 =
        .error (.missingArtifact "REDUNDANT_A.bin" "STAGE1B_A.fd" "STAGE1B_A.fd") ∧
      SameResult (bare.stitch "REDUNDANT_A.bin" .empty sampleWorkspace).1.1
        (bare.stitch "REDUNDANT_B.bin" .empty sampleWorkspace).1.1 := by
  intro full bare left
  have hlayout : sample.layout = .ok sampleLayout := rfl
  have hfull : full.Reachable (· = sampleWorkspace.files) .empty sampleWorkspace := .start rfl
  have hbare : bare.Reachable (· = sampleWorkspace.files) .empty sampleWorkspace := .start rfl
  have hleft : left.1.1 = .ok [0, 0x1B, 0, 0x20, 0, 0x30, 0x40, 0x50] := by
    have hmeaning := StitchSetting.stitch_of_reachable
      (s := sampleSetting (sampleArtifacts false)) hfull "REDUNDANT_A.bin"
    refine hmeaning.trans ((meaning_sampleSetting _).trans ?_)
    have hupdate : optionalRegion sample.features.firmwareUpdate sample.sizes.firmwareUpdate =
        fun region => [region 2] := rfl
    simp only [redundantCopy, hupdate, List.cons_append, List.nil_append,
      StitchSetting.meaningOfRegions_cons, StitchSetting.meaningOfRegions,
      StitchSetting.meaningOfRegion, StitchSetting.contentBelow, Region.ofArtifact, Region.atHead,
      Region.withCodec]
    decide +kernel
  have hmissing : (bare.stitch "REDUNDANT_A.bin" .empty sampleWorkspace).1.1 =
      .error (.missingArtifact "REDUNDANT_A.bin" "STAGE1B_A.fd" "STAGE1B_A.fd") := by
    have hmeaning := StitchSetting.stitch_of_reachable
      (s := sampleSetting ⟨[], []⟩) hbare "REDUNDANT_A.bin"
    refine hmeaning.trans ((meaning_sampleSetting _).trans ?_)
    rw [redundantCopy, List.cons_append, List.cons_append, StitchSetting.meaningOfRegions_cons]
    rfl
  have hcall : full.stitch "REDUNDANT_A.bin" .empty sampleWorkspace =
      ((left.1.1, left.1.2), left.2) := rfl
  have hnext := hfull.stitched hcall
  have hsame := (same_of_copies (s := sampleSetting (sampleArtifacts false)) rfl hlayout hfull
    hnext).1 rfl
  have hnone (artifact : String) :
      ArtifactStore.load ⟨[], []⟩ sampleWorkspace.files artifact = .ok none := rfl
  have halike := (same_of_copies (s := sampleSetting ⟨[], []⟩) rfl hlayout hbare hbare).1
    ((hnone _).trans (hnone _).symm)
  exact ⟨hlayout, hleft, hsame, hmissing, halike⟩

end Board
end FlashImage
