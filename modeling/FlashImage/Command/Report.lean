import FlashImage.Board.Basic
import FlashImage.Layout.Tree
import FlashImage.Text.Column
import FlashImage.Text.Numeral

/-!
The tables that commands print: the containers of a layout with their regions, and boards.
-/

set_option autoImplicit false
set_option relaxedAutoImplicit false

namespace FlashImage

def Text.dashes (n : Nat) : String := String.ofList (List.replicate n '-')

open Text

def regionRow (source offset size amount codec policy position : String) : String :=
  String.intercalate " "
    [atLeft 20 source, atRight 10 offset, atRight 10 size, atRight 10 amount, atRight 6 codec,
      atRight 6 policy, atRight 5 position]

def wideHex (n : Nat) : String := "0x" ++ zeroFilled 8 (upperHex n)

def Placement.row (p : Placement) : String :=
  let r := p.region
  regionRow r.source.text (wideHex p.offset) (wideHex r.size.toNat) (Size.format r.size.toNat)
    r.codec.name r.policy.name r.position.name

def Container.report (c : Container) : List String :=
  let total := c.allocated
  ["\n" ++ c.name ++ " (" ++ toString c.regions.length ++ " regions, " ++ prefixedHex total ++
      " bytes, " ++ Size.format total ++ ")",
    regionRow "Region" "Offset" "Size" "" "Codec" "Policy" "Pos", dashes 74] ++
    c.placements.map Placement.row

def padByteText : Option UInt8 → String
  | some b => "0x" ++ zeroFilled 2 (lowerHex b.toNat)
  | none => "(not set)"

def LayoutTree.report (t : LayoutTree) : List String :=
  let blockSize := t.blockSize.toNat
  ["Layout Information", "=================="] ++
    (t.name.map ("Name:       " ++ ·)).toList ++
    ["Block size: " ++ prefixedHex blockSize ++ " (" ++ Size.format blockSize ++ ")",
      "Pad byte:   " ++ padByteText t.padByte] ++
    t.containers.flatMap Container.report

def Board.layoutKind (b : Board) : String := if b.isRedundant then "redundant" else "simple"

def boardRow (name layout image flash : String) : String :=
  String.intercalate " " [atLeft 20 name, atLeft 10 layout, atLeft 20 image, atRight 10 flash]

def Board.row (b : Board) : String :=
  boardRow b.name b.layoutKind b.imageName (Size.format b.flashSize.toNat)

def boardsHeading : List String :=
  ["Available boards:", "", boardRow "Name" "Layout" "Image" "Flash", dashes 64]

def boardsReport (boards : List Board) : List String :=
  boardsHeading ++ boards.map Board.row ++ ["", "Total: " ++ toString boards.length ++ " boards"]

def Board.announcement (b : Board) : String :=
  "Building " ++ b.name ++ " (" ++ b.layoutKind ++ " layout, " ++ Size.format b.flashSize.toNat ++
    " flash)"

def imageSummary (name : String) (length : Nat) : String :=
  "Image " ++ name ++ " is " ++ toString length ++ " bytes (" ++ Size.format length ++ ")"

end FlashImage
