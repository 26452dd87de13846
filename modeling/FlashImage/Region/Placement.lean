import FlashImage.Error

/-!
How the content of a region is fitted to its allocation.
-/

set_option autoImplicit false
set_option relaxedAutoImplicit false

namespace FlashImage

def Region.sizeViolation (container : String) (r : Region) (content : Bytes) : Error :=
  .sizeViolation container r.name content.length r.size r.policy

/-- Content that is filled up to a length on the side away from its position. -/
def InsertPosition.fill (position : InsertPosition) (pad : UInt8) (length : Nat)
    (content : Bytes) : Bytes :=
  let padding := List.replicate (length - content.length) pad
  match position with
  | .head => padding ++ content
  | .tail => content ++ padding

/-- The bytes that a region has in its container, given its content. -/
def Region.place (container : String) (r : Region) (content : Bytes) (pad : UInt8) :
    Except Error Bytes :=
  match r.policy with
  | .noOp =>
    if content.length = r.size.toNat then .ok content
    else .error (r.sizeViolation container content)
  | _ =>
    if content.length ≤ r.size.toNat then .ok (r.position.fill pad r.size.toNat content)
    else .error (r.sizeViolation container content)

end FlashImage
