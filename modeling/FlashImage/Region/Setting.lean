import FlashImage.Error
import FlashImage.Text.Blank
import FlashImage.Text.Case

/-!
The settings of a region as texts: names of codecs, policies and positions.

White space around a name and the case of its letters do not matter.
-/

set_option autoImplicit false
set_option relaxedAutoImplicit false

namespace FlashImage

def settingName (s : String) : String := String.ofList (Text.lowerLatin (Text.trim s.toList))

def Codec.read (s : String) : Except ConfigFault Codec :=
  match settingName s with
  | "" => .ok .none
  | "none" => .ok .none
  | "lz4" => .ok .lz4
  | "fastblock" => .ok .lz4
  | "lzma" => .ok .lzma
  | "highratio" => .ok .lzma
  | other => .error (.unknownCodec other)

def PaddingPolicy.read (s : String) : Except ConfigFault PaddingPolicy :=
  match settingName s with
  | "pad" => .ok .pad
  | "noop" => .ok .noOp
  | "nop" => .ok .noOp
  | "ignore" => .ok .ignore
  | other => .error (.unknownPolicy other)

def InsertPosition.read (s : String) : Except ConfigFault InsertPosition :=
  match settingName s with
  | "head" => .ok .head
  | "tail" => .ok .tail
  | other => .error (.unknownPosition other)

end FlashImage
