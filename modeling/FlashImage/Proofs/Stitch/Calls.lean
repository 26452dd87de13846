import FlashImage.Proofs.Layout.WellFormed
import FlashImage.Proofs.Stitch.Run
import Mathlib

/-!
The calls of a stitcher, one after another.

Building all containers is building each in turn, up to the first failure. The states of a stitcher
are those to which any calls lead from an empty memory, whether they succeed or fail. Between two
calls the files may change, and a property of the files says to what.
-/

set_option autoImplicit false
set_option relaxedAutoImplicit false

namespace FlashImage

theorem Stitching.record_eq (e : Event) (m : StitchMemory) (w : Workspace) :
    Stitching.ofBuild (Build.record e) m w = ((.ok (), m), w.recorded e) := rfl

namespace StitchJob

/-- The ways in which building containers one after another can go. -/
inductive EachRun (job : StitchJob) : List String → StitchMemory → Workspace →
    Except Error (List (String × Bytes)) → StitchMemory → Workspace → Prop
  | nil {m : StitchMemory} {w : Workspace} : EachRun job [] m w (.ok []) m w
  | failed {name : String} {rest : List String} {m m₁ : StitchMemory} {w w₁ : Workspace} {e : Error}
      (first : job.stitch name m w = ((.error e, m₁), w₁)) :
      EachRun job (name :: rest) m w (.error e) m₁ w₁
  | restFailed {name : String} {rest : List String} {m m₁ m₂ : StitchMemory}
      {w w₁ w₂ : Workspace} {data : Bytes} {e : Error}
      (first : job.stitch name m w = ((.ok data, m₁), w₁))
      (others : EachRun job rest m₁ (w₁.recorded (.containerDone name data.length)) (.error e)
        m₂ w₂) :
      EachRun job (name :: rest) m w (.error e) m₂ w₂
  | cons {name : String} {rest : List String} {m m₁ m₂ : StitchMemory} {w w₁ w₂ : Workspace}
      {data : Bytes} {outputs : List (String × Bytes)}
      (first : job.stitch name m w = ((.ok data, m₁), w₁))
      (others : EachRun job rest m₁ (w₁.recorded (.containerDone name data.length)) (.ok outputs)
        m₂ w₂) :
      EachRun job (name :: rest) m w (.ok ((name, data) :: outputs)) m₂ w₂

theorem eachRun {job : StitchJob} {names : List String} {m m' : StitchMemory} {w w' : Workspace}
    {result : Except Error (List (String × Bytes))}
    (h : job.stitchEach names m w = ((result, m'), w')) : job.EachRun names m w result m' w' := by
  induction names generalizing m w result m' w' with
  | nil =>
    rw [stitchEach] at h
    cases h
    exact .nil
  | cons name rest ih =>
    rw [stitchEach] at h
    rcases hfirst : job.stitch name m w with ⟨⟨e | data, m₁⟩, w₁⟩
    · rw [Stitching.bind_error hfirst] at h
      cases h
      exact .failed hfirst
    rw [Stitching.bind_ok hfirst, Stitching.bind_ok (Stitching.record_eq _ m₁ w₁)] at h
    rcases hothers : job.stitchEach rest m₁ (w₁.recorded (.containerDone name data.length)) with
      ⟨⟨e | outputs, m₂⟩, w₂⟩
    · rw [Stitching.bind_error hothers] at h
      cases h
      exact .restFailed hfirst (ih hothers)
    · rw [Stitching.bind_ok hothers] at h
      cases h
      exact .cons hfirst (ih hothers)

inductive EachCompresses (job : StitchJob) : List String → StitchMemory → Workspace →
    Codec → Bytes → Workspace → Prop
  | first {name : String} {rest : List String} {m : StitchMemory} {w before : Workspace}
      {codec : Codec} {raw : Bytes} (call : job.callsOf name m w codec raw before) :
      EachCompresses job (name :: rest) m w codec raw before
  | rest {name : String} {rest : List String} {m m₁ : StitchMemory} {w w₁ before : Workspace}
      {data : Bytes} {codec : Codec} {raw : Bytes}
      (first : job.stitch name m w = ((.ok data, m₁), w₁))
      (call : EachCompresses job rest m₁ (w₁.recorded (.containerDone name data.length)) codec raw
        before) :
      EachCompresses job (name :: rest) m w codec raw before

abbrev callsOfAll (job : StitchJob) (m : StitchMemory) (w : Workspace) :
    Codec → Bytes → Workspace → Prop :=
  job.EachCompresses job.tree.names m (w.recorded (.started job.tree.containers.length))

/-- What is left after the last container: an event marks success. -/
def finished (w : Workspace) : Except Error (List (String × Bytes)) → Workspace
  | .ok _ => w.recorded .finished
  | .error _ => w

theorem eachRun_of_stitchAll {job : StitchJob} {m m' : StitchMemory} {w w' : Workspace}
    {result : Except Error (List (String × Bytes))}
    (h : job.stitchAll m w = ((result, m'), w')) :
    ∃ w₁, w' = finished w₁ result ∧
      job.EachRun job.tree.names m (w.recorded (.started job.tree.containers.length)) result
        m' w₁ := by
  rw [stitchAll, Stitching.bind_ok (Stitching.record_eq _ m w)] at h
  rcases heach : job.stitchEach job.tree.names m (w.recorded (.started job.tree.containers.length))
    with ⟨⟨e | outputs, m₁⟩, w₁⟩
  · rw [Stitching.bind_error heach] at h
    cases h
    exact ⟨w', rfl, eachRun heach⟩
  · rw [Stitching.bind_ok heach, Stitching.bind_ok (Stitching.record_eq _ m₁ w₁)] at h
    cases h
    exact ⟨w₁, rfl, eachRun heach⟩

/-- The states of a stitcher after any calls. The files have a property at the start and after every
change between two calls. -/
inductive Reachable (job : StitchJob) (files : Files → Prop) : StitchMemory → Workspace → Prop
  | start {w : Workspace} (initial : files w.files) : Reachable job files .empty w
  | stitched {m m' : StitchMemory} {w w' : Workspace} {name : String} {result : Except Error Bytes}
      (prior : Reachable job files m w) (call : job.stitch name m w = ((result, m'), w')) :
      Reachable job files m' w'
  | allStitched {m m' : StitchMemory} {w w' : Workspace}
      {result : Except Error (List (String × Bytes))}
      (prior : Reachable job files m w) (call : job.stitchAll m w = ((result, m'), w')) :
      Reachable job files m' w'
  | changed {m : StitchMemory} {w : Workspace} {fs : Files}
      (prior : Reachable job files m w) (change : files fs) :
      Reachable job files m { w with files := fs }

variable {job : StitchJob} {inv : StitchMemory → Workspace → Prop}

theorem Reachable.weaken {files files' : Files → Prop} {m : StitchMemory} {w : Workspace}
    (h : job.Reachable files m w) (weaker : ∀ fs, files fs → files' fs) :
    job.Reachable files' m w := by
  induction h with
  | start initial => exact .start (weaker _ initial)
  | stitched _ call ih => exact .stitched ih call
  | allStitched _ call ih => exact .allStitched ih call
  | changed _ change ih => exact .changed ih (weaker _ change)

theorem EachRun.keeps
    (stitch : ∀ {name m w result m' w'}, inv m w →
      job.stitch name m w = ((result, m'), w') → inv m' w')
    (record : ∀ {m w} e, inv m w → inv m (w.recorded e))
    {names : List String} {m m' : StitchMemory} {w w' : Workspace}
    {result : Except Error (List (String × Bytes))}
    (run : job.EachRun names m w result m' w') (initial : inv m w) : inv m' w' := by
  induction run with
  | nil => exact initial
  | failed first => exact stitch initial first
  | restFailed first _ ih => exact ih (record _ (stitch initial first))
  | cons first _ ih => exact ih (record _ (stitch initial first))

/-- What holds at the start and is kept by each way to go on holds in all states. -/
theorem Reachable.invariant {files : Files → Prop} (inv : StitchMemory → Workspace → Prop)
    {m : StitchMemory} {w : Workspace}
    (start : ∀ {w}, files w.files → inv .empty w)
    (stitch : ∀ {name m w result m' w'}, inv m w →
      job.stitch name m w = ((result, m'), w') → inv m' w')
    (record : ∀ {m w} e, inv m w → inv m (w.recorded e))
    (change : ∀ {m w fs}, inv m w → files fs → inv m { w with files := fs })
    (reachable : job.Reachable files m w) : inv m w := by
  induction reachable with
  | start initial => exact start initial
  | stitched _ call ih => exact stitch ih call
  | @allStitched m m' w w' result _ call ih =>
    obtain ⟨w₁, rfl, run⟩ := eachRun_of_stitchAll call
    have hrun := run.keeps stitch record (record _ ih)
    cases result with
    | error e => exact hrun
    | ok outputs => exact record _ hrun
  | changed _ change' ih => exact change ih change'

end StitchJob

def sampleImage : Container where
  name := "IMAGE"
  regions := [
    { Region.ofArtifact "b" 8 with policy := .ignore },
    { Region.ofContainer "STAGE" 8 with position := .head }]

def sampleTree : LayoutTree where
  name := none
  blockSize := 4
  padByte := none
  containers := [
    ⟨"STAGE", [{ Region.ofArtifact "a" 4 with codec := .lz4 }]⟩,
    sampleImage,
    ⟨"SPARE", [Region.ofArtifact "c" 4]⟩]
  distinct := by decide

theorem sampleTree_validate : sampleTree.validate = .ok () :=
  LayoutTree.validate_eq_ok_iff_checks.2 ⟨by decide, by decide, rfl, by cbv⟩

def sampleStore : ArtifactStore := ⟨[("a", [1, 2, 3])], []⟩

def sampleJob : StitchJob := ⟨sampleTree, sampleStore, fun _ raw => return raw.take 2, 0xFF⟩

def sampleWorkspace : Workspace := ⟨{ entries := [], current := [] }, "/tmp", [], [], []⟩

end FlashImage
