import FlashImage.Toml.Blank
import FlashImage.Toml.Quoted

/-!
The keys of TOML: bare or quoted names, joined by dots into paths.
-/

set_option autoImplicit false
set_option relaxedAutoImplicit false

namespace FlashImage.Toml

def isBare (c : Char) : Bool := c.isAlphanum || c == '_' || c == '-'

def readName : List Char → Option (String × List Char)
  | '"' :: rest => (readBasic rest).map fun (s, rest) => (String.ofList s, rest)
  | '\'' :: rest => (readLiteral rest).map fun (s, rest) => (String.ofList s, rest)
  | s =>
    let name := s.takeWhile isBare
    if name.isEmpty then none else some (String.ofList name, s.dropWhile isBare)

def depthLimit : Nat := 80

/-- Reads at most `limit` names, with blanks around them, that are joined by dots. -/
def readNames : (limit : Nat) → List Char → Option (List String × List Char)
  | 0, _ => none
  | limit + 1, s => do
    let (name, rest) ← readName (skipBlanks s)
    match skipBlanks rest with
    | '.' :: rest =>
      let (names, rest) ← readNames limit rest
      some (name :: names, rest)
    | rest => some ([name], rest)

def readPath (s : List Char) : Option (List String × List Char) := readNames (depthLimit - 1) s

end FlashImage.Toml
