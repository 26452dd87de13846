import FlashImage.Proofs.Stitch.Transparency

/-!
What a stitcher gives for a container depends on nothing outside what the container reaches.

Two layouts that hold the same containers but for some names lead from all other names to the same.
So a layout may be put in another order and may have other blocks, and whatever a container does not
reach may be added, removed and changed, in the layout and among the artifacts.
-/

set_option autoImplicit false
set_option relaxedAutoImplicit false

namespace FlashImage

open Relation (ReflTransGen)

namespace LayoutTree

variable {t t' : LayoutTree} {others : Set String}

/-- Two layouts hold the same containers, in any order, but for those with some names. -/
def SameBut (others : Set String) (t t' : LayoutTree) : Prop :=
  ∀ c, c.name ∉ others → (c ∈ t.containers ↔ c ∈ t'.containers)

private theorem find?_eq_some_iff {name : String} {c : Container} :
    t.find? name = some c ↔ c ∈ t.containers ∧ c.name = name := by
  constructor
  · exact fun h => ⟨mem_of_find? h, name_of_find? h⟩
  · rintro ⟨hc, rfl⟩
    exact find?_name hc

private theorem SameBut.find?_eq (same : SameBut others t t') {name : String} (h : name ∉ others) :
    t.find? name = t'.find? name := by
  refine Option.ext fun c => ?_
  rw [find?_eq_some_iff, find?_eq_some_iff]
  refine and_congr_left ?_
  rintro rfl
  exact same c h

private theorem sameBut_of_perm (h : t.containers.Perm t'.containers) : SameBut ∅ t t' :=
  fun _ _ => h.mem_iff

private theorem mem_of_reaches {names : List String}
    (closed : ∀ x ∈ names, ∀ y ∈ t.children x, y ∈ names)
    {name x : String} (hname : name ∈ names) (h : ReflTransGen t.Embeds name x) : x ∈ names := by
  induction h with
  | refl => exact hname
  | tail _ he ih => exact closed _ ih _ (LayoutTree.embeds_iff.1 he)

end LayoutTree

namespace StitchSetting

variable {s s' : StitchSetting} {m m' : StitchMemory} {w w' : Workspace} {name : String}
  {others artifacts : Set String}

/-- A container reaches none of some containers, and nothing that it reaches has one of some
artifacts. -/
structure Spares (s : StitchSetting) (others artifacts : Set String) (name : String) : Prop where
  containers : ∀ x, ReflTransGen s.tree.Embeds name x → x ∉ others
  artifacts : ∀ x, ReflTransGen s.tree.Embeds name x → ∀ c, s.tree.find? x = some c →
    ∀ r ∈ c.regions, ∀ artifact, r.source = .artifact artifact → artifact ∉ artifacts

private theorem spares_empty (s : StitchSetting) (name : String) : s.Spares ∅ ∅ name :=
  ⟨fun _ _ => Set.notMem_empty _, fun _ _ _ _ _ _ _ _ => Set.notMem_empty _⟩

private theorem Spares.agreesOn (spares : s.Spares others artifacts name)
    (same : s.tree.SameBut others s'.tree)
    (load : ∀ artifact, artifact ∉ artifacts →
      s.store.load s.files artifact = s'.store.load s'.files artifact)
    {x : String} (hx : ReflTransGen s.tree.Embeds name x) : s.AgreesOn s' x := by
  refine ⟨same.find?_eq (spares.containers x hx), ?_⟩
  intro c hc r hr artifact source
  exact load artifact (spares.artifacts x hx c hc r hr artifact source)

theorem stitch_of_reachable (reachable : s.job.Reachable (· = s.files) m w) (name : String) :
    (s.job.stitch name m w).1.1 = s.meaning name :=
  (stitch_faithful (faithful_of_reachable reachable) rfl).1

/-- Two stitchers that compress and pad alike give a container the same bytes or the same error,
whatever they have been called for before, if the containers that it reaches have the same
definitions and their artifacts load alike. So they do if the layouts differ in order and blocks
only. Containers that it does not reach may differ as well, and artifacts that nothing of what it
reaches needs. -/
theorem stitch_eq_of_agree {s s' : StitchSetting} {m m' : StitchMemory} {w w' : Workspace}
    (pad : s.pad = s'.pad) (compress : s.compress = s'.compress)
    (reachable : s.job.Reachable (· = s.files) m w)
    (reachable' : s'.job.Reachable (· = s'.files) m' w') :
    (∀ name, (∀ x, ReflTransGen s.tree.Embeds name x → s.AgreesOn s' x) →
      (s.job.stitch name m w).1.1 = (s'.job.stitch name m' w').1.1) ∧
    (s.tree.containers.Perm s'.tree.containers →
      (∀ artifact, s.store.load s.files artifact = s'.store.load s'.files artifact) →
      ∀ name, (s.job.stitch name m w).1.1 = (s'.job.stitch name m' w').1.1) ∧
    ∀ name others artifacts, s.Spares others artifacts name → s.tree.SameBut others s'.tree →
      (∀ artifact, artifact ∉ artifacts →
        s.store.load s.files artifact = s'.store.load s'.files artifact) →
      (s.job.stitch name m w).1.1 = (s'.job.stitch name m' w').1.1 := by
  have hagree (name : String)
      (reached : ∀ x, ReflTransGen s.tree.Embeds name x → s.AgreesOn s' x) :
      (s.job.stitch name m w).1.1 = (s'.job.stitch name m' w').1.1 := by
    rw [stitch_of_reachable reachable, stitch_of_reachable reachable']
    exact meaning_congr ⟨pad, compress, reached⟩
  refine ⟨hagree, ?_, ?_⟩
  · intro order load name
    refine hagree name fun x hx => (s.spares_empty name).agreesOn ?_ (fun a _ => load a) hx
    exact LayoutTree.sameBut_of_perm order
  · intro name others artifacts spares same load
    exact hagree name fun x hx => spares.agreesOn same load hx

def rearranged : StitchSetting where
  tree := {
    name := none
    blockSize := 8
    padByte := none
    containers := [⟨"SPARE", [Region.ofArtifact "c" 8, Region.ofContainer "IMAGE" 16]⟩,
      sampleImage, ⟨"STAGE", [{ Region.ofArtifact "a" 4 with codec := .lz4 }]⟩]
    distinct := by decide }
  store := ⟨[("c", [5]), ("a", [1, 2, 3])], []⟩
  files := sampleWorkspace.files
  compress := sample.compress
  pad := 0xFF

private theorem spares_sample : sample.Spares {"SPARE"} {"c"} "IMAGE" := by
  have hclosed : ∀ x ∈ ["IMAGE", "STAGE"], ∀ y ∈ sample.tree.children x,
      y ∈ ["IMAGE", "STAGE"] := by decide
  have hreached {x : String} (hx : ReflTransGen sample.tree.Embeds "IMAGE" x) :
      x ∈ ["IMAGE", "STAGE"] := LayoutTree.mem_of_reaches hclosed List.mem_cons_self hx
  refine ⟨fun x hx hspare => ?_, fun x hx c hc r hr artifact source hc' => ?_⟩
  · have hmem := hreached hx
    rw [Set.mem_singleton_iff.1 hspare] at hmem
    revert hmem
    decide
  · have hartifacts : ∀ x ∈ ["IMAGE", "STAGE"], ∀ c ∈ sample.tree.find? x, ∀ r ∈ c.regions,
        r.source ≠ .artifact "c" := by decide
    rw [Set.mem_singleton_iff.1 hc'] at source
    exact hartifacts x (hreached hx) c hc r hr source

/-- The sample and its rearrangement have the same image, but not the same other container. -/
theorem stitch_eq_of_agree_rearranged :
    (sample.job.stitch "IMAGE" .empty sampleWorkspace).1.1 =
        .ok [0xFF, 0xFF, 0xFF, 0xFF, 1, 2, 0xFF, 0xFF] ∧
      (sample.job.stitch "IMAGE" .empty sampleWorkspace).1.1 =
        (rearranged.job.stitch "IMAGE" .empty sampleWorkspace).1.1 := by
  have hsame : sample.tree.SameBut {"SPARE"} rearranged.tree := by
    intro c hc
    simp only [sample, sampleTree, rearranged, List.mem_cons, List.not_mem_nil, or_false]
    constructor
    · rintro (rfl | rfl | rfl)
      · exact .inr (.inr rfl)
      · exact .inr (.inl rfl)
      · exact absurd rfl hc
    · rintro (rfl | rfl | rfl)
      · exact absurd rfl hc
      · exact .inr (.inl rfl)
      · exact .inl rfl
  have hload : ∀ artifact, artifact ∉ ({"c"} : Set String) →
      sample.store.load sample.files artifact =
        rearranged.store.load rearranged.files artifact := by
    intro artifact hc
    have hother : (artifact == "c") = false := beq_eq_false_iff_ne.2 hc
    have hblob : sample.store.blob? artifact = rearranged.store.blob? artifact := by
      simp only [sample, sampleStore, rearranged, ArtifactStore.blob?, List.lookup_cons, hother]
    rw [ArtifactStore.load, ArtifactStore.load, hblob]
    rfl
  have hpad : sample.pad = rearranged.pad := rfl
  have hcompress : sample.compress = rearranged.compress := rfl
  refine ⟨by cbv, ?_⟩
  exact (stitch_eq_of_agree hpad hcompress (.start rfl) (.start rfl)).2.2 "IMAGE" _ _
    spares_sample hsame hload

end StitchSetting
end FlashImage
