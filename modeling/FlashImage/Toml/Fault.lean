import FlashImage.Size
import FlashImage.Text.Quoted
import FlashImage.Toml.Value

/-!
Why a TOML text is no layout.

The text is read as a document first, and a fault in its syntax has no wording of its own.
-/

set_option autoImplicit false
set_option relaxedAutoImplicit false

namespace FlashImage.Toml

inductive Expected
  | text
  | sequence
  | record (name : String)
  deriving DecidableEq, Repr

def Expected.wording : Expected → String
  | .text => "a string"
  | .sequence => "a sequence"
  | .record name => "struct " ++ name

def Value.described : Value → String
  | .text s => "string " ++ Text.quoted s
  | .integer n => "integer `" ++ toString n ++ "`"
  | .real x => "floating point `" ++ x.text ++ "`"
  | .boolean b => "boolean `" ++ toString b ++ "`"
  | .moment => "map"
  | .array _ => "sequence"
  | .table _ _ => "map"
  | .tables _ => "sequence"

inductive Fault
  /-- The text is no TOML document. -/
  | malformed
  /-- A record written as an array has too few items. -/
  | shortRecord
  | missingField (name : String)
  | wrongKind (found : String) (expected : Expected)
  /-- A size or a pad byte is neither a 32-bit number nor a text. -/
  | notSizeLike
  | size (fault : Size.Fault)
  | number (fault : Text.NumberFault)
  | padByteRange (n : UInt32)
  deriving DecidableEq, Repr

/-- The wording of a fault, which a fault in the syntax lacks. -/
def Fault.message? : Fault → Option String
  | .malformed => none
  | .shortRecord => none
  | .missingField name => some ("missing field `" ++ name ++ "`")
  | .wrongKind found expected =>
    some ("invalid type: " ++ found ++ ", expected " ++ expected.wording)
  | .notSizeLike => some "data did not match any variant of untagged enum HexOrInt"
  | .size fault => some fault.message
  | .number fault => some fault.message
  | .padByteRange n => some ("pad byte " ++ Text.prefixedHex n.toNat ++ " out of range")

end FlashImage.Toml
