/-!
The parts of a TOML text that carry no value: blanks, comments and line ends.
-/

set_option autoImplicit false
set_option relaxedAutoImplicit false

namespace FlashImage.Toml

def isBlank (c : Char) : Bool := c == ' ' || c == '\t'

def skipBlanks (s : List Char) : List Char := s.dropWhile isBlank

/-- The characters of a comment: all but the control characters, and the tab. -/
def isCommentChar (c : Char) : Bool := c == '\t' || (0x20 ≤ c.toNat && c.toNat != 0x7F)

def skipComment : List Char → List Char
  | '#' :: rest => rest.dropWhile isCommentChar
  | s => s

/-- A text without the line end at its start. -/
def newline? : List Char → Option (List Char)
  | '\n' :: rest => some rest
  | '\r' :: '\n' :: rest => some rest
  | _ => none

/-- A text without the rest of its line, which holds nothing but blanks and a comment. -/
def lineEnd? (s : List Char) : Option (List Char) :=
  match skipComment (skipBlanks s) with
  | [] => some []
  | rest => newline? rest

/-- A text without the blanks, comments and line ends at its start. A comment has to end in its
line; `inComment` says that one has been begun. -/
def skipLines? : (inComment : Bool) → List Char → Option (List Char)
  | true, [] => none
  | false, [] => some []
  | _, '\n' :: rest => skipLines? false rest
  | _, '\r' :: '\n' :: rest => skipLines? false rest
  | true, c :: rest => if isCommentChar c then skipLines? true rest else none
  | false, '#' :: rest => skipLines? true rest
  | false, c :: rest => if isBlank c then skipLines? false rest else some (c :: rest)

end FlashImage.Toml
