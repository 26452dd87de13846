import FlashImage.Error

/-!
Layouts: containers, each an ordered list of regions, that may embed one another.

The containers of a layout have distinct names, and the last one is the final image. `add` refuses
a name that is taken and changes nothing else.
-/

set_option autoImplicit false
set_option relaxedAutoImplicit false

namespace FlashImage

/-- An output made of regions that follow one another. Its name is also that of its file. -/
structure Container where
  name : String
  regions : List Region
  deriving DecidableEq, Repr

structure Placement where
  offset : Nat
  region : Region
  deriving DecidableEq, Repr

namespace Container

def find? (c : Container) (name : String) : Option Region := c.regions.find? (·.name = name)

def allocation (regions : List Region) : Nat :=
  regions.foldr (fun r total => r.size.toNat + total) 0

/-- The number of bytes of a container in which no region is left out. -/
def allocated (c : Container) : Nat := allocation c.regions

def placementsFrom : Nat → List Region → List Placement
  | _, [] => []
  | offset, r :: rest => ⟨offset, r⟩ :: placementsFrom (offset + r.size.toNat) rest

def placements (c : Container) : List Placement := placementsFrom 0 c.regions

/-- The containers that a container embeds, in the order of its regions. -/
def children (c : Container) : List String := c.regions.filterMap (·.source.container?)

end Container

/-- A layout. Every allocation should be a multiple of the block size. -/
structure LayoutTree where
  name : Option String
  blockSize : UInt32
  padByte : Option UInt8
  containers : List Container
  distinct : (containers.map (·.name)).Nodup

namespace LayoutTree

def empty (name : Option String) (blockSize : UInt32) (padByte : Option UInt8) : LayoutTree :=
  ⟨name, blockSize, padByte, [], .nil⟩

def names (t : LayoutTree) : List String := t.containers.map (·.name)

def add (t : LayoutTree) (c : Container) : Except Error LayoutTree :=
  if h : c.name ∈ t.names then .error (.configuration (.duplicateContainer c.name))
  else .ok { t with
    containers := t.containers ++ [c]
    distinct := by
      rw [List.map_append, List.nodup_append]
      refine ⟨t.distinct, by simp, ?_⟩
      intro a ha b hb hab
      simp only [List.map_cons, List.map_nil, List.mem_singleton] at hb
      exact h (hb ▸ hab ▸ ha) }

def addAll (t : LayoutTree) : List Container → Except Error LayoutTree
  | [] => .ok t
  | c :: rest =>
    match t.add c with
    | .error e => .error e
    | .ok t => t.addAll rest

def find? (t : LayoutTree) (name : String) : Option Container :=
  t.containers.find? (·.name = name)

/-- The final image, which is the last container. -/
def final? (t : LayoutTree) : Option Container := t.containers.getLast?

/-- The containers that a container embeds; none if there is no container of that name. -/
def children (t : LayoutTree) (name : String) : List String :=
  match t.find? name with
  | none => []
  | some c => c.children

theorem mem_names_of_find? {t : LayoutTree} {name : String} {c : Container}
    (h : t.find? name = some c) : name ∈ t.names := by
  have hm := List.mem_of_find?_eq_some h
  have hn := List.find?_some h
  simp only [decide_eq_true_eq] at hn
  exact List.mem_map.2 ⟨c, hm, hn⟩

end LayoutTree
end FlashImage
