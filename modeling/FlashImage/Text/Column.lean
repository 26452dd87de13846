/-!
Texts set in columns. A column counts characters, not bytes, and a longer text is not cut.
-/

set_option autoImplicit false
set_option relaxedAutoImplicit false

namespace FlashImage.Text

def blanks (n : Nat) : String := String.ofList (List.replicate n ' ')

def atLeft (width : Nat) (s : String) : String := s ++ blanks (width - s.length)

def atRight (width : Nat) (s : String) : String := blanks (width - s.length) ++ s

end FlashImage.Text
