import FlashImage.Layout.Document
import FlashImage.Layout.Export
import FlashImage.Workspace

/-!
Layouts in files.
-/

set_option autoImplicit false
set_option relaxedAutoImplicit false

namespace FlashImage.LayoutTree

def load (path : String) : Build LayoutTree := do
  let text ← Build.look path (·.readText path)
  Build.ofExcept (LayoutTree.read text)

def save (t : LayoutTree) (path : String) : Build Unit :=
  Build.change path (·.write path (Bytes.ofText t.document))

end FlashImage.LayoutTree
