import FlashImage.Codec.Basic

/-!
Regions: the named slots of fixed size that a container is made of.
-/

set_option autoImplicit false
set_option relaxedAutoImplicit false

namespace FlashImage

/-- How the bytes of a region are fitted to its allocation. -/
inductive PaddingPolicy
  /-- Fills up to the allocation. -/
  | pad
  /-- Asks for exactly the allocation. -/
  | noOp
  /-- Leaves the region out when its artifact is absent, and fills up otherwise. -/
  | ignore
  deriving DecidableEq, Repr

def PaddingPolicy.name : PaddingPolicy → String
  | .pad => "pad"
  | .noOp => "noop"
  | .ignore => "ignore"

/-- The side of the content at which padding goes. -/
inductive InsertPosition
  | head
  | tail
  deriving DecidableEq, Repr

def InsertPosition.name : InsertPosition → String
  | .head => "head"
  | .tail => "tail"

/-- Where the bytes of a region come from. -/
inductive Source
  /-- A binary that is built elsewhere. -/
  | artifact (name : String)
  /-- The bytes of another container of the layout. -/
  | container (name : String)
  deriving DecidableEq, Repr

def Source.name : Source → String
  | .artifact n => n
  | .container n => n

/-- A source in a listing, with brackets around a container. -/
def Source.text : Source → String
  | .artifact n => n
  | .container n => "[" ++ n ++ "]"

def Source.container? : Source → Option String
  | .artifact _ => none
  | .container n => some n

/-- A slot of a container. -/
structure Region where
  name : String
  source : Source
  codec : Codec
  size : UInt32
  policy : PaddingPolicy
  position : InsertPosition
  deriving DecidableEq, Repr

/-- A padded region with the artifact of its own name, the padding behind it. -/
def Region.ofArtifact (name : String) (size : UInt32) : Region :=
  ⟨name, .artifact name, .none, size, .pad, .tail⟩

def Region.ofContainer (name : String) (size : UInt32) : Region :=
  ⟨name, .container name, .none, size, .pad, .tail⟩

end FlashImage
