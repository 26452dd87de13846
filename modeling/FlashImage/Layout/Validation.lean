import FlashImage.Layout.Cycle

/-!
What a layout has to satisfy before anything is built from it.

The containers are checked in order, each one with its regions in order; the search for cycles
comes last. The first fault is the one that is reported.
-/

set_option autoImplicit false
set_option relaxedAutoImplicit false

namespace FlashImage

/-- Whether a name can be that of a file in a given directory. -/
def isFileName (name : String) : Bool :=
  name ≠ "" && name ≠ "." && name ≠ ".." && !name.toList.contains '/' && !name.toList.contains '\\'

namespace LayoutTree

def regionFault? (t : LayoutTree) (seen : List String) (r : Region) : Option RegionFault :=
  if r.name ∈ seen then some .duplicateName
  else if r.size = 0 then some .zeroSize
  else if r.size % t.blockSize ≠ 0 then some (.unaligned r.size t.blockSize)
  else
    match r.source with
    | .artifact _ => none
    | .container child =>
      match t.find? child with
      | none => some (.unknownContainer child)
      | some c =>
        if r.size.toNat < c.allocated then some (.containerTooLarge c.name c.allocated r.size)
        else none

def checkRegions (t : LayoutTree) (container : String) :
    List String → List Region → Except Error Unit
  | _, [] => .ok ()
  | seen, r :: rest =>
    match t.regionFault? seen r with
    | some fault => .error (.region container r.name fault)
    | none => t.checkRegions container (r.name :: seen) rest

def checkContainer (t : LayoutTree) (c : Container) : Except Error Unit :=
  if !isFileName c.name then .error (.configuration (.containerName c.name))
  else if c.regions.isEmpty then .error (.configuration (.emptyContainer c.name))
  else t.checkRegions c.name [] c.regions

def checkContainers (t : LayoutTree) : List Container → Except Error Unit
  | [] => .ok ()
  | c :: rest =>
    match t.checkContainer c with
    | .error e => .error e
    | .ok () => t.checkContainers rest

def validate (t : LayoutTree) : Except Error Unit :=
  if t.blockSize = 0 then .error (.configuration .zeroBlockSize)
  else if t.containers.isEmpty then .error (.configuration .noContainers)
  else
    match t.checkContainers t.containers with
    | .error e => .error e
    | .ok () =>
      match t.cycle? with
      | some path => .error (.cycle path)
      | none => .ok ()

end LayoutTree
end FlashImage
