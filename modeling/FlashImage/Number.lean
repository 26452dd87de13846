import FlashImage.Text.Blank
import FlashImage.Text.Numeral

/-!
Numbers as settings and command lines give them: decimal, or hexadecimal after `0x`.
-/

set_option autoImplicit false
set_option relaxedAutoImplicit false

namespace FlashImage

/-- Reads a number without white space around it. -/
def readTrimmedNumber : List Char → Except Text.NumberFault UInt32
  | '0' :: 'x' :: digits => (Text.readNumeral 16 digits).mapError .hexadecimal
  | '0' :: 'X' :: digits => (Text.readNumeral 16 digits).mapError .hexadecimal
  | s => (Text.readNumeral 10 s).mapError .decimal

def readNumber (s : String) : Except Text.NumberFault UInt32 :=
  readTrimmedNumber (Text.trim s.toList)

end FlashImage
