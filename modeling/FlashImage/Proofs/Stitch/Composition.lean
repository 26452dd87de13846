import FlashImage.Proofs.Layout.Slots
import FlashImage.Proofs.Stitch.Calls

/-!
What the bytes of a container are made of.

The bytes are the slots of the regions that have content, in order and side by side. A stitcher may
take a container from its memory, so what the bytes were made of when it was built has to stay true.
It does, since a container that is kept is never replaced: while its regions are built it is on the
path, and what is on the path is not built.
-/

set_option autoImplicit false
set_option relaxedAutoImplicit false

namespace FlashImage

def StitchMemory.Within (m m' : StitchMemory) : Prop :=
  ∀ name data, m.built? name = some data → m'.built? name = some data

private theorem StitchMemory.within_keepBuilt {m : StitchMemory} {name : String}
    (new : m.built? name = none) (data : Bytes) : m.Within (m.keepBuilt name data) := by
  intro name' data' hkept
  have hne : name' ≠ name := by
    rintro rfl
    rw [new] at hkept
    cases hkept
  rw [built?_keepBuilt, if_neg hne]
  exact hkept

namespace StitchJob

variable {job : StitchJob} {files : Files → Prop} {m m' : StitchMemory} {w w' : Workspace}

/-- What the content of a region can be, or that it is left out. The files have a property whenever
an artifact is loaded, and a container that is embedded is one that has been built. -/
inductive Resolved (job : StitchJob) (files : Files → Prop) (m : StitchMemory) (r : Region) :
    Option Bytes → Prop
  | leftOut {artifact : String} {w : Workspace} (source : r.source = .artifact artifact)
      (policy : r.policy = .ignore) (met : files w.files)
      (load : job.store.load w.files artifact = .ok none) : Resolved job files m r none
  | artifact {artifact : String} {raw data : Bytes} {w w' : Workspace}
      (source : r.source = .artifact artifact) (met : files w.files)
      (load : job.store.load w.files artifact = .ok (some raw))
      (compress : job.compressed r.codec raw w = (.ok data, w')) :
      Resolved job files m r (some data)
  | container {child : String} {raw data : Bytes} {w w' : Workspace}
      (source : r.source = .container child) (built : m.built? child = some raw)
      (met : files w.files) (compress : job.compressed r.codec raw w = (.ok data, w')) :
      Resolved job files m r (some data)

/-- Regions of a container with their contents, and the bytes of their slots together. -/
inductive Assembled (job : StitchJob) (files : Files → Prop) (m : StitchMemory)
    (container : String) : List Region → List (Option Bytes) → Bytes → Prop
  | nil : Assembled job files m container [] [] []
  | cons {r : Region} {content : Option Bytes} {regions : List Region}
      {contents : List (Option Bytes)} {first others : Bytes}
      (resolved : job.Resolved files m r content) (slot : job.slot container r content = .ok first)
      (rest : Assembled job files m container regions contents others) :
      Assembled job files m container (r :: regions) (content :: contents) (first ++ others)

theorem Resolved.mono {r : Region} {content : Option Bytes} (h : job.Resolved files m r content)
    (hm : m.Within m') : job.Resolved files m' r content := by
  cases h with
  | leftOut source policy met load => exact .leftOut source policy met load
  | artifact source met load compress => exact .artifact source met load compress
  | container source built met compress => exact .container source (hm _ _ built) met compress

theorem Assembled.mono {container : String} {regions : List Region}
    {contents : List (Option Bytes)} {data : Bytes}
    (h : job.Assembled files m container regions contents data) (hm : m.Within m') :
    job.Assembled files m' container regions contents data := by
  induction h with
  | nil => exact .nil
  | cons resolved slot _ ih => exact .cons (resolved.mono hm) slot ih

theorem ContentRun.built? {container artifact : String} {r : Region}
    {result : Except Error (Option Bytes)}
    (run : job.ContentRun container r artifact m w result m' w') (name : String) :
    m'.built? name = m.built? name := by
  cases run <;> rfl

def Task.path : Task → List String
  | .container path _ => path
  | .region path _ _ => path
  | .regions path _ _ => path

private theorem StitchRun.built?_of_mem_path {task : Task} {result : Except Error Bytes}
    (run : job.StitchRun task m w result m' w') {name : String} (hname : name ∈ task.path) :
    m'.built? name = m.built? name := by
  induction run with
  | kept | cycle | unknown | zeroSize | nil => rfl
  | failed _ _ _ _ ih => exact ih (List.mem_append_left _ hname)
  | @built path name' _ _ _ _ _ _ _ offPath _ _ ih =>
    have hne : name ≠ name' := fun heq => offPath (heq ▸ hname)
    rw [StitchMemory.built?_keepBuilt, if_neg hne]
    exact ih (List.mem_append_left _ hname)
  | noContent _ _ content => exact content.built? name
  | artifact _ _ run => exact run.built? name
  | noChild _ _ _ ih => exact ih hname
  | incompressible _ _ _ _ ih => exact ih hname
  | child _ _ _ _ ih => exact ih hname
  | firstFailed _ ih => exact ih hname
  | restFailed _ _ ihFirst ihRest => exact (ihRest hname).trans (ihFirst hname)
  | cons _ _ ihFirst ihRest => exact (ihRest hname).trans (ihFirst hname)

theorem StitchRun.new_of_regions {path : List String} {name container : String}
    {siblings : List Region} {result : Except Error Bytes}
    (run : job.StitchRun (.regions (path ++ [name]) container siblings) m w result m' w')
    (new : m.built? name = none) : m'.built? name = none :=
  (run.built?_of_mem_path (List.mem_append_right path (List.mem_singleton.2 rfl))).trans new

theorem StitchRun.within {task : Task} {result : Except Error Bytes}
    (run : job.StitchRun task m w result m' w') : m.Within m' := by
  intro name data hdata
  induction run with
  | kept | cycle | unknown | zeroSize | nil => exact hdata
  | failed _ _ _ _ ih => exact ih hdata
  | built new _ _ regions ih =>
    exact StitchMemory.within_keepBuilt (regions.new_of_regions new) _ name data (ih hdata)
  | noContent _ _ content => exact (content.built? name).trans hdata
  | artifact _ _ run => exact (run.built? name).trans hdata
  | noChild _ _ _ ih => exact ih hdata
  | incompressible _ _ _ _ ih => exact ih hdata
  | child _ _ _ _ ih => exact ih hdata
  | firstFailed _ ih => exact ih hdata
  | restFailed _ _ ihFirst ihRest => exact ihRest (ihFirst hdata)
  | cons _ _ ihFirst ihRest => exact ihRest (ihFirst hdata)

/-- All that is kept is assembled from resolved contents. -/
structure Sound (job : StitchJob) (files : Files → Prop) (m : StitchMemory) (w : Workspace) :
    Prop where
  met : files w.files
  built : ∀ name data, m.built? name = some data →
    ∃ c contents, job.tree.find? name = some c ∧
      job.Assembled files m c.name c.regions contents data
  content : ∀ artifact codec data, m.content? artifact codec = some data →
    ∃ raw w₁ w₂, files w₁.files ∧ job.store.load w₁.files artifact = .ok (some raw) ∧
      job.compressed codec raw w₁ = (.ok data, w₂)

theorem sound_empty (hw : files w.files) : job.Sound files .empty w :=
  ⟨hw, fun _ _ h => (nomatch h), fun _ _ _ h => (nomatch h)⟩

theorem Sound.withFiles (h : job.Sound files m w) (hw : files w'.files) : job.Sound files m w' :=
  ⟨hw, h.built, h.content⟩

theorem Sound.keepBuilt (h : job.Sound files m w) {name : String} {c : Container} {data : Bytes}
    {contents : List (Option Bytes)} (hc : job.tree.find? name = some c)
    (hdata : job.Assembled files m c.name c.regions contents data)
    (new : m.built? name = none) : job.Sound files (m.keepBuilt name data) w := by
  have hm := StitchMemory.within_keepBuilt new data
  refine ⟨h.met, ?_, h.content⟩
  intro name' data' hkept
  rcases StitchMemory.of_built?_keepBuilt hkept with ⟨rfl, rfl⟩ | hkept
  · exact ⟨c, contents, hc, hdata.mono hm⟩
  · obtain ⟨c', contents', hc', hdata'⟩ := h.built name' data' hkept
    exact ⟨c', contents', hc', hdata'.mono hm⟩

theorem Sound.keepContent (h : job.Sound files m w) {artifact : String} {codec : Codec}
    {raw data : Bytes} {w₁ w₂ : Workspace} (met : files w₁.files)
    (load : job.store.load w₁.files artifact = .ok (some raw))
    (compress : job.compressed codec raw w₁ = (.ok data, w₂)) :
    job.Sound files (m.keepContent artifact codec data) w := by
  refine ⟨h.met, fun name data' hkept => ?_, ?_⟩
  · obtain ⟨c, contents, hc, hdata⟩ := h.built name data' hkept
    exact ⟨c, contents, hc, hdata.mono fun _ _ hbuilt => hbuilt⟩
  · intro artifact' codec' data' hkept
    rcases StitchMemory.of_content?_keepContent hkept with ⟨rfl, rfl, rfl⟩ | hkept
    · exact ⟨raw, w₁, w₂, met, load, compress⟩
    · exact h.content artifact' codec' data' hkept

theorem contentRun_sound (keeps : job.Keeps files) {container artifact : String} {r : Region}
    {result : Except Error (Option Bytes)} (source : r.source = .artifact artifact)
    (run : job.ContentRun container r artifact m w result m' w') (sound : job.Sound files m w) :
    job.Sound files m' w' ∧ ∀ content, result = .ok content → job.Resolved files m' r content := by
  cases run with
  | kept kept =>
    obtain ⟨raw, w₁, w₂, met, load, compress⟩ := sound.content _ _ _ kept
    refine ⟨sound, fun content h => ?_⟩
    cases h
    exact .artifact source met load compress
  | unread => exact ⟨sound, fun _ h => (nomatch h)⟩
  | leftOut _ load policy =>
    refine ⟨sound, fun content h => ?_⟩
    cases h
    exact .leftOut source policy sound.met load
  | missing => exact ⟨sound, fun _ h => (nomatch h)⟩
  | failed _ _ compress =>
    exact ⟨sound.withFiles (keeps.compressed compress sound.met), fun _ h => (nomatch h)⟩
  | loaded _ load compress =>
    have hsound := sound.withFiles (keeps.compressed compress sound.met)
    refine ⟨hsound.keepContent sound.met load compress, fun content h => ?_⟩
    cases h
    exact .artifact source sound.met load compress

def Task.Done (job : StitchJob) (files : Files → Prop) (m : StitchMemory) (data : Bytes) :
    Task → Prop
  | .container _ name => m.built? name = some data
  | .region _ name r =>
    ∃ content, job.Resolved files m r content ∧ job.slot name r content = .ok data
  | .regions _ name siblings =>
    ∃ contents, job.Assembled files m name siblings contents data

/-- A run keeps what is sound, and a task that gives bytes is done. -/
theorem stitchRun_sound (keeps : job.Keeps files) {task : Task} {result : Except Error Bytes}
    (run : job.StitchRun task m w result m' w') (sound : job.Sound files m w) :
    job.Sound files m' w' ∧ ∀ data, result = .ok data → task.Done job files m' data := by
  induction run with
  | kept kept =>
    refine ⟨sound, fun data h => ?_⟩
    cases h
    exact kept
  | cycle => exact ⟨sound, fun _ h => (nomatch h)⟩
  | unknown => exact ⟨sound, fun _ h => (nomatch h)⟩
  | failed _ _ _ _ ih => exact ⟨(ih sound).1, fun _ h => (nomatch h)⟩
  | built new _ found regions ih =>
    obtain ⟨hsound, hdone⟩ := ih sound
    obtain ⟨contents, hdata⟩ := hdone _ rfl
    -- Nothing that other containers were made of is replaced.
    have hnew := regions.new_of_regions new
    refine ⟨hsound.keepBuilt found hdata hnew, fun data h => ?_⟩
    cases h
    exact (StitchMemory.built?_keepBuilt _ _ _ _).trans (if_pos rfl)
  | zeroSize => exact ⟨sound, fun _ h => (nomatch h)⟩
  | noContent _ source content =>
    exact ⟨(contentRun_sound keeps source content sound).1, fun _ h => (nomatch h)⟩
  | artifact _ source run =>
    obtain ⟨hsound, hresolved⟩ := contentRun_sound keeps source run sound
    exact ⟨hsound, fun data h => ⟨_, hresolved _ rfl, h⟩⟩
  | noChild _ _ _ ih => exact ⟨(ih sound).1, fun _ h => (nomatch h)⟩
  | incompressible _ _ _ compress ih =>
    have hsound := (ih sound).1
    exact ⟨hsound.withFiles (keeps.compressed compress hsound.met), fun _ h => (nomatch h)⟩
  | child _ source _ compress ih =>
    obtain ⟨hsound, hdone⟩ := ih sound
    refine ⟨hsound.withFiles (keeps.compressed compress hsound.met), fun data h => ?_⟩
    exact ⟨_, .container source (hdone _ rfl) hsound.met compress, h⟩
  | nil =>
    refine ⟨sound, fun data h => ?_⟩
    cases h
    exact ⟨[], .nil⟩
  | firstFailed _ ih => exact ⟨(ih sound).1, fun _ h => (nomatch h)⟩
  | restFailed _ _ ihFirst ihRest =>
    exact ⟨(ihRest (ihFirst sound).1).1, fun _ h => (nomatch h)⟩
  | cons _ others ihFirst ihRest =>
    obtain ⟨hsound, hfirst⟩ := ihFirst sound
    obtain ⟨hsound, hrest⟩ := ihRest hsound
    obtain ⟨content, hresolved, hslot⟩ := hfirst _ rfl
    obtain ⟨contents, hothers⟩ := hrest _ rfl
    refine ⟨hsound, fun data h => ?_⟩
    cases h
    exact ⟨content :: contents, .cons (hresolved.mono others.within) hslot hothers⟩

theorem sound_of_reachable (keeps : job.Keeps files) (reachable : job.Reachable files m w) :
    job.Sound files m w := by
  refine reachable.invariant (job.Sound files) sound_empty ?_ ?_ ?_
  · intro name m w result m' w' sound call
    exact (stitchRun_sound keeps (stitchRun call) sound).1
  · intro m w e sound
    exact sound.withFiles sound.met
  · intro m w fs sound hfs
    exact sound.withFiles hfs

theorem filled_of_slot {container : String} {r : Region} {content first : Bytes}
    (h : job.slot container r (some content) = .ok first) : Filled job.pad r content first :=
  r.filled_of_place h

private theorem Assembled.tiled {container : String} {regions : List Region}
    {contents : List (Option Bytes)} {out : Bytes}
    (h : job.Assembled files m container regions contents out) {before offset : Nat}
    (hle : before ≤ offset) :
    Tiled job.pad (offset - before)
      (Container.slotsAt before (Container.placementsFrom offset regions) contents) out := by
  induction h generalizing before offset with
  | nil => exact .nil
  | @cons r content regions contents first others _ slot _ ih =>
    cases content with
    | none =>
      cases slot
      have hrest := @ih (before + r.size.toNat) (offset + r.size.toNat) (by omega)
      rw [Nat.add_sub_add_right] at hrest
      exact hrest
    | some content =>
      have hrest := @ih before (offset + r.size.toNat) (by omega)
      rw [Nat.sub_add_comm hle] at hrest
      exact .cons (s := ⟨offset - before, r, content⟩) (filled_of_slot slot) hrest

theorem Assembled.length_add_leftOut {container : String} {regions : List Region}
    {contents : List (Option Bytes)} {out : Bytes}
    (h : job.Assembled files m container regions contents out) :
    out.length + Container.leftOut regions contents = Container.allocation regions := by
  induction h with
  | nil => rfl
  | @cons r content regions contents first others _ slot _ ih =>
    have hallocation :
        Container.allocation (r :: regions) = r.size.toNat + Container.allocation regions := rfl
    cases content with
    | none =>
      cases slot
      rw [Container.leftOut_cons_none, hallocation, List.nil_append]
      omega
    | some content =>
      have hlength := (filled_of_slot slot).length
      rw [Container.leftOut_cons_some, hallocation, List.length_append]
      omega

theorem Assembled.resolved {container : String} {regions : List Region}
    {contents : List (Option Bytes)} {out : Bytes}
    (h : job.Assembled files m container regions contents out) :
    List.Forall₂ (job.Resolved files m) regions contents := by
  induction h with
  | nil => exact .nil
  | cons resolved _ _ ih => exact .cons resolved ih

/-- In a layout that passes validation, the bytes of a container are the slots of its regions at
their places, moved up by what is left out. The files may change within a property that the
compressor keeps; every compressor keeps the one that all files have. -/
theorem composition_of_stitch {job : StitchJob} {files : Files → Prop} {m m' : StitchMemory}
    {w w' : Workspace} {c : Container} {out : Bytes} (valid : job.tree.validate = .ok ())
    (keeps : job.Keeps files) (reachable : job.Reachable files m w)
    (hc : c ∈ job.tree.containers) (call : job.stitch c.name m w = ((.ok out, m'), w')) :
    ∃ contents, List.Forall₂ (job.Resolved files m') c.regions contents ∧
      Composition job.pad job.tree.blockSize.toNat c contents out := by
  obtain ⟨hsound, hdone⟩ :=
    stitchRun_sound keeps (stitchRun call) (sound_of_reachable keeps reachable)
  obtain ⟨d, contents, hd, hout⟩ := hsound.built c.name out (hdone out rfl)
  obtain rfl : c = d := Option.some.inj ((LayoutTree.find?_name hc).symm.trans hd)
  have haligned : ∀ r ∈ c.regions, job.tree.blockSize.toNat ∣ r.size.toNat := fun r hr =>
    ((LayoutTree.WellFormed.of_validate valid).regionFits c hc r hr).aligned
  refine ⟨contents, hout.resolved, ?_⟩
  exact Tiled.composition (hout.tiled (Nat.zero_le 0)) hout.length_add_leftOut haligned

theorem composition_of_stitch_image :
    let call := sampleJob.stitch "IMAGE" .empty sampleWorkspace
    call.1.1 = .ok [0xFF, 0xFF, 0xFF, 0xFF, 1, 2, 0xFF, 0xFF] ∧
      ∃ contents,
        List.Forall₂ (sampleJob.Resolved (· = sampleWorkspace.files) call.1.2)
          sampleImage.regions contents ∧
        Composition 0xFF 4 sampleImage contents
          [0xFF, 0xFF, 0xFF, 0xFF, 1, 2, 0xFF, 0xFF] := by
  have hresult : (sampleJob.stitch "IMAGE" .empty sampleWorkspace).1.1 =
      .ok [0xFF, 0xFF, 0xFF, 0xFF, 1, 2, 0xFF, 0xFF] := by cbv
  have hkeeps : sampleJob.Keeps (· = sampleWorkspace.files) := fun _ _ _ hw => hw
  have himage : sampleImage ∈ sampleJob.tree.containers := by simp [sampleJob, sampleTree]
  refine ⟨hresult, ?_⟩
  exact composition_of_stitch sampleTree_validate hkeeps (.start rfl) himage
    (Prod.ext (Prod.ext hresult rfl) rfl)

end StitchJob
end FlashImage
