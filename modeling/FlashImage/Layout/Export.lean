import FlashImage.Layout.Tree

/-!
The text of a layout as a TOML document.

Names are written as they are, between quotes. What a reader assumes by itself is left out: no
codec, and the artifact of the region's own name.
-/

set_option autoImplicit false
set_option relaxedAutoImplicit false

namespace FlashImage

open Text

def textLine (key value : String) : String := key ++ " = \"" ++ value ++ "\"\n"

def hexLine (key : String) (digits n : Nat) : String :=
  key ++ " = 0x" ++ zeroFilled digits (upperHex n) ++ "\n"

def Region.sourceLine (r : Region) : String :=
  match r.source with
  | .container child => textLine "container" child
  | .artifact file => if file = r.name then "" else textLine "file" file

def Region.document (r : Region) : String :=
  "\n[[container.region]]\n" ++ textLine "name" r.name ++ r.sourceLine ++
    hexLine "size" 8 r.size.toNat ++
    (if r.codec = .none then "" else textLine "codec" r.codec.name) ++
    textLine "policy" r.policy.name ++ textLine "position" r.position.name

def Container.document (c : Container) : String :=
  "\n[[container]]\n" ++ textLine "name" c.name ++ String.join (c.regions.map (·.document))

def LayoutTree.document (t : LayoutTree) : String :=
  "[layout]\n" ++ (t.name.map (textLine "name")).getD "" ++
    hexLine "block_size" 1 t.blockSize.toNat ++
    (t.padByte.map fun b => hexLine "pad_byte" 2 b.toNat).getD "" ++
    String.join (t.containers.map (·.document))

end FlashImage
