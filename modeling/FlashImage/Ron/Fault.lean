/-!
Why a RON text is no board.

The text is read as a stream, so the first fault in it is the one that is reported; a fault in its
syntax has no wording of its own.
-/

set_option autoImplicit false
set_option relaxedAutoImplicit false

namespace FlashImage.Ron

/-- Why a text is no board. -/
inductive Fault
  | malformed
  | missingField (field record : String)
  | duplicateField (field record : String)
  /-- A size has a unit that is none of its units. -/
  | unknownUnit (name : String)
  | integerRange
  deriving DecidableEq, Repr

/-- A name in a message, marked if it is no plain identifier. -/
def shownName (name : String) : String :=
  let first := fun (c : Char) => c.isAlpha || c == '_'
  let plain := match name.toList with
    | [] => false
    | c :: rest => first c && rest.all fun d => first d || d.isDigit
  if plain then "`" ++ name ++ "`" else "`r#" ++ name ++ "`"

def Fault.message? : Fault → Option String
  | .malformed => none
  | .missingField field record =>
    some ("Unexpected missing field " ++ shownName field ++ " in " ++ shownName record)
  | .duplicateField field record =>
    some ("Unexpected duplicate field " ++ shownName field ++ " in " ++ shownName record)
  | .unknownUnit name =>
    some ("Unexpected variant named " ++ shownName name ++
      "in enum `Size`, expected one of `B`, `KiB`, `MiB` instead")
  | .integerRange => some "Integer is out of bounds"

end FlashImage.Ron
