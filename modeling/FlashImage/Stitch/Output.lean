import FlashImage.Workspace

/-!
The containers that have been built, in the order of the layout, and how they are written.

The final image is the last container. It is written last, after the others if these are wanted.
-/

set_option autoImplicit false
set_option relaxedAutoImplicit false

namespace FlashImage

/-- Containers by name, in the order of the layout. -/
structure StitchOutput where
  containers : List (String × Bytes)
  deriving DecidableEq, Repr

namespace StitchOutput

def get? (o : StitchOutput) (name : String) : Option Bytes := o.containers.lookup name

def final? (o : StitchOutput) : Option (String × Bytes) := o.containers.getLast?

def written (o : StitchOutput) (intermediates : Bool) : List (String × Bytes) :=
  if intermediates then o.containers else o.final?.toList

/-- Writes containers into a directory that is there, and gives the paths. -/
def writeEach (directory : String) : List (String × Bytes) → Build (List String)
  | [] => return []
  | (name, data) :: rest => do
    let path := Path.join directory name
    Build.writeWhole path data
    let paths ← writeEach directory rest
    return path :: paths

/-- Makes a directory and writes containers into it. Without containers nothing is done. -/
def write (o : StitchOutput) (directory : String) (intermediates : Bool) :
    Build (List String) := do
  if o.containers.isEmpty then return []
  else
    Build.makeDirectories directory
    writeEach directory (o.written intermediates)

end StitchOutput
end FlashImage
