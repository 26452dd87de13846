import FlashImage.Proofs.Stitch.Run

/-!
A run of a stitcher is what the stitcher does.

Every call is a run, and here every run is a call. So from a given memory and a given workspace a
task can go in one way only.
-/

set_option autoImplicit false
set_option relaxedAutoImplicit false

namespace FlashImage.StitchJob

variable {job : StitchJob} {m m' m₁ : StitchMemory} {w w' w₁ : Workspace}

def perform (job : StitchJob) : Task → Stitching Bytes
  | .container path name => job.stitchBelow path name
  | .region path container r => job.stitchRegion path container r
  | .regions path container siblings => job.stitchRegions path container siblings

theorem ContentRun.artifactContent_eq {container artifact : String} {r : Region}
    {result : Except Error (Option Bytes)}
    (run : job.ContentRun container r artifact m w result m' w') :
    job.artifactContent container r artifact m w = ((result, m'), w') := by
  have hfiles : Stitching.ofBuild Build.files m w = ((.ok w.files, m), w) := rfl
  have hload {loaded : Except Error (Option Bytes)} :
      Stitching.ofBuild (Build.ofExcept loaded) m w = ((loaded, m), w) :=
    Stitching.ofBuild_eq (Build.ofExcept_eq loaded w)
  rw [artifactContent, Stitching.bind_ok (Stitching.memory_eq _ _)]
  cases run with
  | kept kept => rw [kept]; rfl
  | unread new load =>
    simp only [new]
    rw [Stitching.bind_ok hfiles, load, Stitching.bind_error hload]
  | leftOut new load policy =>
    simp only [new]
    rw [Stitching.bind_ok hfiles, load, Stitching.bind_ok hload]
    simp only [if_pos policy]
    rfl
  | missing new load policy =>
    simp only [new]
    rw [Stitching.bind_ok hfiles, load, Stitching.bind_ok hload]
    simp only [if_neg policy]
    rfl
  | failed new load compress =>
    simp only [new]
    rw [Stitching.bind_ok hfiles, load, Stitching.bind_ok hload]
    simp only
    rw [Stitching.bind_error (Stitching.ofBuild_eq compress)]
  | loaded new load compress =>
    simp only [new]
    rw [Stitching.bind_ok hfiles, load, Stitching.bind_ok hload]
    simp only
    rw [Stitching.bind_ok (Stitching.ofBuild_eq compress)]
    rfl

theorem stitchRegion_of_artifact {path : List String} {container artifact : String} {r : Region}
    (size : r.size ≠ 0) (source : r.source = .artifact artifact) :
    job.stitchRegion path container r = (do
      let content ← job.artifactContent container r artifact
      Stitching.ofBuild (Build.ofExcept (job.slot container r content))) := by
  rw [stitchRegion, if_neg size]
  simp only [source]

theorem stitchRegion_of_container {path : List String} {container child : String} {r : Region}
    (size : r.size ≠ 0) (source : r.source = .container child) :
    job.stitchRegion path container r = (do
      let raw ← job.stitchBelow path child
      let data ← Stitching.ofBuild (job.compressed r.codec raw)
      Stitching.ofBuild (Build.ofExcept (job.slot container r (some data)))) := by
  rw [stitchRegion, if_neg size]
  simp only [source, map_eq_pure_bind, bind_assoc, pure_bind]

private theorem stitchBelow_of_new {path : List String} {name : String} {c : Container}
    (new : m.built? name = none) (offPath : name ∉ path) (found : job.tree.find? name = some c) :
    job.stitchBelow path name m w = (do
      let data ← job.stitchRegions (path ++ [name]) c.name c.regions
      Stitching.update (·.keepBuilt name data)
      return data : Stitching Bytes) m w := by
  rw [stitchBelow_eq, Stitching.bind_ok (Stitching.memory_eq _ _)]
  simp only [new, if_neg offPath, found]

theorem StitchRun.perform_eq {task : Task} {result : Except Error Bytes}
    (run : job.StitchRun task m w result m' w') : job.perform task m w = ((result, m'), w') := by
  -- One case for each way a task can go. The equation of the step ends in the parts of the task,
  -- and they go as the induction says.
  induction run with
  | kept kept =>
    rw [perform, stitchBelow_eq, Stitching.bind_ok (Stitching.memory_eq _ _), kept]
    rfl
  | cycle new onPath =>
    rw [perform, stitchBelow_eq, Stitching.bind_ok (Stitching.memory_eq _ _)]
    simp only [new, if_pos onPath]
    rfl
  | unknown new offPath lacking =>
    rw [perform, stitchBelow_eq, Stitching.bind_ok (Stitching.memory_eq _ _)]
    simp only [new, if_neg offPath, lacking]
    rfl
  | failed new offPath found _ ih =>
    rw [perform] at ih
    rw [perform, stitchBelow_of_new new offPath found, Stitching.bind_error ih]
  | built new offPath found _ ih =>
    rw [perform] at ih
    rw [perform, stitchBelow_of_new new offPath found, Stitching.bind_ok ih]
    rfl
  | zeroSize size =>
    rw [perform, stitchRegion, if_pos size]
    rfl
  | noContent size source content =>
    rw [perform, stitchRegion_of_artifact size source,
      Stitching.bind_error content.artifactContent_eq]
  | artifact size source run =>
    rw [perform, stitchRegion_of_artifact size source, Stitching.bind_ok run.artifactContent_eq]
    exact Stitching.ofBuild_eq (Build.ofExcept_eq _ _)
  | noChild size source _ ih =>
    rw [perform] at ih
    rw [perform, stitchRegion_of_container size source, Stitching.bind_error ih]
  | incompressible size source _ compress ih =>
    rw [perform] at ih
    rw [perform, stitchRegion_of_container size source, Stitching.bind_ok ih,
      Stitching.bind_error (Stitching.ofBuild_eq compress)]
  | child size source _ compress ih =>
    rw [perform] at ih
    rw [perform, stitchRegion_of_container size source, Stitching.bind_ok ih,
      Stitching.bind_ok (Stitching.ofBuild_eq compress)]
    exact Stitching.ofBuild_eq (Build.ofExcept_eq _ _)
  | nil =>
    rw [perform, stitchRegions]
    rfl
  | firstFailed _ ih =>
    rw [perform] at ih
    rw [perform, stitchRegions_cons, Stitching.bind_error ih]
  | restFailed _ _ ihFirst ihRest =>
    rw [perform] at ihFirst
    rw [perform] at ihRest
    rw [perform, stitchRegions_cons, Stitching.bind_ok ihFirst, Stitching.bind_error ihRest]
  | cons _ _ ihFirst ihRest =>
    rw [perform] at ihFirst
    rw [perform] at ihRest
    rw [perform, stitchRegions_cons, Stitching.bind_ok ihFirst, Stitching.bind_ok ihRest]
    rfl

theorem StitchRun.unique {task : Task} {result result₁ : Except Error Bytes}
    (run : job.StitchRun task m w result m' w') (run₁ : job.StitchRun task m w result₁ m₁ w₁) :
    result = result₁ ∧ m' = m₁ ∧ w' = w₁ := by
  have heq := run.perform_eq.symm.trans run₁.perform_eq
  cases heq
  exact ⟨rfl, rfl, rfl⟩

end FlashImage.StitchJob
