import FlashImage.Layout.Validation
import FlashImage.Stitch.ArtifactStore
import FlashImage.Workspace

/-!
A stitching job, and what is checked before any bytes are made.
-/

set_option autoImplicit false
set_option relaxedAutoImplicit false

namespace FlashImage

/-- What is needed to build the containers of a layout. -/
structure StitchJob where
  tree : LayoutTree
  store : ArtifactStore
  compress : Compressor
  pad : UInt8

namespace StitchJob

def unknownContainer (name : String) : Error := .configuration (.unknownContainer name)

def missingArtifact (container : String) (r : Region) (artifact : String) : Error :=
  .missingArtifact container r.name artifact

/-- Checks that the artifacts of regions are there, of those that cannot be left out. -/
def checkArtifacts (store : ArtifactStore) (fs : Files) (container : String) :
    List Region → Except Error Unit
  | [] => .ok ()
  | r :: rest =>
    match r.source with
    | .container _ => checkArtifacts store fs container rest
    | .artifact artifact =>
      if r.policy = .ignore ∨ store.contains fs artifact then checkArtifacts store fs container rest
      else .error (missingArtifact container r artifact)

def checkAll (store : ArtifactStore) (fs : Files) : List Container → Except Error Unit
  | [] => .ok ()
  | c :: rest =>
    match checkArtifacts store fs c.name c.regions with
    | .error e => .error e
    | .ok () => checkAll store fs rest

/-- Checks the layout, and that all artifacts of all containers are there. -/
def preflight (job : StitchJob) (fs : Files) : Except Error Unit :=
  match job.tree.validate with
  | .error e => .error e
  | .ok () => checkAll job.store fs job.tree.containers

/-- Checks the artifacts of the pending containers and of all that they embed, each container once.
Of the containers that one embeds, the last is checked first. -/
def checkReached (tree : LayoutTree) (store : ArtifactStore) (fs : Files) (seen : List String) :
    (pending : List String) → Except Error Unit
  | [] => .ok ()
  | name :: rest =>
    if hs : name ∈ seen then checkReached tree store fs seen rest
    else
      match hc : tree.find? name with
      | none => .error (unknownContainer name)
      | some c =>
        match checkArtifacts store fs c.name c.regions with
        | .error e => .error e
        | .ok () =>
          have := LayoutTree.offPath_cons_lt hc hs
          checkReached tree store fs (name :: seen) (c.children.reverse ++ rest)
termination_by pending => (tree.offPath seen, pending.length)

/-- Checks the layout, and that the artifacts of a container and of all that it embeds are there. -/
def preflightFor (job : StitchJob) (fs : Files) (name : String) : Except Error Unit :=
  match job.tree.validate with
  | .error e => .error e
  | .ok () => checkReached job.tree job.store fs [] [name]

end StitchJob
end FlashImage
