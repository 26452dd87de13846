import FlashImage.Stitch.Stitcher

/-!
What a container means: the bytes that its definition gives while nothing changes.

The meaning needs no memory and changes nothing. It is what a stitcher builds if the files stay as
they are and the compressor depends on nothing but the codec and the data.
-/

set_option autoImplicit false
set_option relaxedAutoImplicit false

namespace FlashImage

/-- What the meaning of a container depends on. -/
structure StitchSetting where
  tree : LayoutTree
  store : ArtifactStore
  files : Files
  compress : Codec → Bytes → Except Error Bytes
  pad : UInt8

namespace StitchSetting

def compressor (s : StitchSetting) : Compressor := fun codec raw =>
  Build.ofExcept (s.compress codec raw)

def job (s : StitchSetting) : StitchJob := ⟨s.tree, s.store, s.compressor, s.pad⟩

/-- Data as a codec leaves them. -/
def compressed (s : StitchSetting) (codec : Codec) (raw : Bytes) : Except Error Bytes :=
  if codec = .none then .ok raw else s.compress codec raw

def artifactContent (s : StitchSetting) (container : String) (r : Region) (artifact : String) :
    Except Error (Option Bytes) :=
  match s.store.load s.files artifact with
  | .error e => .error e
  | .ok (some raw) => some <$> s.compressed r.codec raw
  | .ok none =>
    if r.policy = .ignore then .ok none
    else .error (StitchJob.missingArtifact container r artifact)

mutual

/-- The bytes of a container that is embedded by the containers of a path. -/
def meaningBelow (s : StitchSetting) (path : List String) (name : String) : Except Error Bytes :=
  if hp : name ∈ path then .error (.cycle (LayoutTree.cycleAt path name))
  else
    match hc : s.tree.find? name with
    | none => .error (StitchJob.unknownContainer name)
    | some c =>
      have := LayoutTree.offPath_append_lt hc hp
      meaningOfRegions s (path ++ [name]) c.name c.regions
termination_by (s.tree.offPath path, 0)

/-- The bytes of regions of a container one after another; the path ends with the container. -/
def meaningOfRegions (s : StitchSetting) (path : List String) (container : String) :
    List Region → Except Error Bytes
  | [] => .ok []
  | r :: rest => do
    if r.size = 0 then .error (.region container r.name .zeroSize)
    let content ←
      match r.source with
      | .artifact artifact => s.artifactContent container r artifact
      | .container child => do
        let raw ← meaningBelow s path child
        some <$> s.compressed r.codec raw
    let first ← s.job.slot container r content
    let others ← meaningOfRegions s path container rest
    return first ++ others
termination_by regions => (s.tree.offPath path, regions.length + 1)

end

def meaning (s : StitchSetting) (name : String) : Except Error Bytes := meaningBelow s [] name

end StitchSetting
end FlashImage
