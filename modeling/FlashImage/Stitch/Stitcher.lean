import FlashImage.Layout.Cycle
import FlashImage.Region.Placement
import FlashImage.Stitch.Job

/-!
The stitcher: it builds containers, each after the containers that it embeds.

A container that has been built is kept, and so is the content of every artifact region under the
name of the artifact and its codec. What is kept is never changed, and it outlives an error. The
path holds the containers that are being built, so that one that embeds itself is found.
-/

set_option autoImplicit false
set_option relaxedAutoImplicit false

namespace FlashImage

/-- What a stitcher keeps. -/
structure StitchMemory where
  /-- The containers that have been built. -/
  built : List (String × Bytes)
  /-- The contents of artifact regions, compressed with the codec. -/
  contents : List ((String × Codec) × Bytes)
  deriving DecidableEq, Repr

namespace StitchMemory

def empty : StitchMemory := ⟨[], []⟩

def built? (m : StitchMemory) (name : String) : Option Bytes := m.built.lookup name

def content? (m : StitchMemory) (artifact : String) (codec : Codec) : Option Bytes :=
  m.contents.lookup (artifact, codec)

def keepBuilt (m : StitchMemory) (name : String) (data : Bytes) : StitchMemory :=
  { m with built := (name, data) :: m.built }

def keepContent (m : StitchMemory) (artifact : String) (codec : Codec) (data : Bytes) :
    StitchMemory :=
  { m with contents := ((artifact, codec), data) :: m.contents }

@[simp] theorem built?_empty (name : String) : empty.built? name = none := rfl

@[simp] theorem content?_empty (artifact : String) (codec : Codec) :
    empty.content? artifact codec = none := rfl

@[simp] theorem content?_keepBuilt (m : StitchMemory) (name artifact : String) (data : Bytes)
    (codec : Codec) : (m.keepBuilt name data).content? artifact codec = m.content? artifact codec :=
  rfl

@[simp] theorem built?_keepContent (m : StitchMemory) (name artifact : String) (data : Bytes)
    (codec : Codec) : (m.keepContent artifact codec data).built? name = m.built? name := rfl

theorem built?_keepBuilt (m : StitchMemory) (name name' : String) (data : Bytes) :
    (m.keepBuilt name data).built? name' = if name' = name then some data else m.built? name' := by
  by_cases h : name' = name
  · simp [keepBuilt, built?, h]
  · simp [keepBuilt, built?, List.lookup_cons, h, beq_eq_false_iff_ne.2 h]

theorem content?_keepContent (m : StitchMemory) (artifact artifact' : String) (codec codec' : Codec)
    (data : Bytes) :
    (m.keepContent artifact codec data).content? artifact' codec' =
      if artifact' = artifact ∧ codec' = codec then some data else m.content? artifact' codec' := by
  by_cases h : artifact' = artifact ∧ codec' = codec
  · simp [keepContent, content?, h]
  · have hne : (artifact', codec') ≠ (artifact, codec) := fun heq => h (Prod.mk.inj heq)
    simp [keepContent, content?, List.lookup_cons, beq_eq_false_iff_ne.2 hne, h]

end StitchMemory

/-- A step of a stitcher. Its memory and the workspace are changed even if the step fails. -/
abbrev Stitching (α : Type) := ExceptT Error (StateT StitchMemory (StateM Workspace)) α

namespace Stitching

def ofBuild {α : Type} (step : Build α) : Stitching α := fun m w =>
  let (result, w) := step w
  ((result, m), w)

def memory : Stitching StitchMemory := fun m w => ((.ok m, m), w)

def update (f : StitchMemory → StitchMemory) : Stitching Unit := fun m w => ((.ok (), f m), w)

/-- A step of a stitcher that keeps nothing yet and is not used any more. -/
def once {α : Type} (step : Stitching α) : Build α := fun w =>
  let ((result, _), w) := step .empty w
  (result, w)

end Stitching

namespace StitchJob

def compressed (job : StitchJob) (codec : Codec) (raw : Bytes) : Build Bytes :=
  if codec = .none then return raw
  else do
    Build.record (.compression codec raw.length)
    job.compress codec raw

def artifactContent (job : StitchJob) (container : String) (r : Region) (artifact : String) :
    Stitching (Option Bytes) := do
  match (← Stitching.memory).content? artifact r.codec with
  | some data => return some data
  | none =>
    let fs ← Stitching.ofBuild Build.files
    match ← Stitching.ofBuild (Build.ofExcept (job.store.load fs artifact)) with
    | none =>
      if r.policy = .ignore then return none
      else throw (missingArtifact container r artifact)
    | some raw =>
      let data ← Stitching.ofBuild (job.compressed r.codec raw)
      Stitching.update (·.keepContent artifact r.codec data)
      return some data

/-- The slot of a region in its container, given the content. A region that is left out has none. -/
def slot (job : StitchJob) (container : String) (r : Region) :
    Option Bytes → Except Error Bytes
  | none => .ok []
  | some content => r.place container content job.pad

mutual

/-- Builds a container, below the containers of a path. -/
def stitchBelow (job : StitchJob) (path : List String) (name : String) : Stitching Bytes := do
  match (← Stitching.memory).built? name with
  | some data => return data
  | none =>
    if hp : name ∈ path then throw (.cycle (LayoutTree.cycleAt path name))
    else
      match hc : job.tree.find? name with
      | none => throw (unknownContainer name)
      | some c =>
        have := LayoutTree.offPath_append_lt hc hp
        let data ← stitchRegions job (path ++ [name]) c.name c.regions
        Stitching.update (·.keepBuilt name data)
        return data
termination_by (job.tree.offPath path, 0)

/-- Builds regions of a container one after another; the path ends with the container. -/
def stitchRegions (job : StitchJob) (path : List String) (container : String) :
    List Region → Stitching Bytes
  | [] => return []
  | r :: rest => do
    if r.size = 0 then throw (.region container r.name .zeroSize)
    let content ←
      match r.source with
      | .artifact artifact => artifactContent job container r artifact
      | .container child => do
        let raw ← stitchBelow job path child
        some <$> Stitching.ofBuild (job.compressed r.codec raw)
    let first ← Stitching.ofBuild (Build.ofExcept (job.slot container r content))
    let others ← stitchRegions job path container rest
    return first ++ others
termination_by regions => (job.tree.offPath path, regions.length + 1)

end

def stitch (job : StitchJob) (name : String) : Stitching Bytes := stitchBelow job [] name

/-- Builds containers in order, and records each one. -/
def stitchEach (job : StitchJob) : List String → Stitching (List (String × Bytes))
  | [] => return []
  | name :: rest => do
    let data ← stitch job name
    Stitching.ofBuild (Build.record (.containerDone name data.length))
    let others ← stitchEach job rest
    return (name, data) :: others

def stitchAll (job : StitchJob) : Stitching (List (String × Bytes)) := do
  Stitching.ofBuild (Build.record (.started job.tree.containers.length))
  let outputs ← stitchEach job job.tree.names
  Stitching.ofBuild (Build.record .finished)
  return outputs

end StitchJob
end FlashImage
