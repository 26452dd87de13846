import FlashImage.Shell.ByteText
import FlashImage.Shell.Pattern
import FlashImage.Files.Operation

/-!
What words come to: the characters that stand for a word, and the fields that they are split into.

Only characters from values without quotes are split at. A field with the signs of a pattern stands
for the paths that the pattern fits, if there are any.
-/

set_option autoImplicit false
set_option relaxedAutoImplicit false

namespace FlashImage.Shell

/-- A character of what a word stands for. -/
inductive Glyph
  /-- A character in quotes. -/
  | fixed (c : Char)
  /-- A character of the script. -/
  | plain (c : Char)
  /-- A character from a value without quotes. -/
  | value (c : Char)
  /-- Quotes, which make a field even if there is nothing in them. -/
  | mark
  /-- The end of a field and the start of the next, which is like a blank if it is not in quotes. -/
  | gap (quoted : Bool)
  deriving DecidableEq, Repr

def quotedGlyphs (s : String) : List Glyph := if s.isEmpty then [.mark] else s.toList.map .fixed

def valueGlyphs (quoted : Bool) (s : String) : List Glyph :=
  if quoted then s.toList.map .fixed else s.toList.map .value

/-- The characters of texts, each of which ends a field but the last. -/
def textsGlyphs (quoted : Bool) (texts : List String) : List Glyph :=
  let each (s : String) : List Glyph := if quoted then quotedGlyphs s else valueGlyphs false s
  List.intercalate [.gap quoted] (texts.map each)

def textOf (w : List Glyph) : String :=
  String.join (w.map text)
where
  text : Glyph → String
    | .fixed c => c.toString
    | .plain c => c.toString
    | .value c => c.toString
    | .mark => ""
    | .gap _ => ""

/-- The pattern that some characters are. A backslash in a value takes the meaning from the next
character. -/
def patternChars : List Glyph → List PatternChar
  | [] => []
  | .value '\\' :: g :: rest => escaped g ++ patternChars rest
  | .fixed c :: rest => ⟨c, false⟩ :: patternChars rest
  | .plain c :: rest => ⟨c, true⟩ :: patternChars rest
  | .value c :: rest => ⟨c, c ≠ '\\'⟩ :: patternChars rest
  | _ :: rest => patternChars rest
where
  escaped : Glyph → List PatternChar
    | .fixed c => [⟨'\\', false⟩, ⟨c, false⟩]
    | .plain c => [⟨c, false⟩]
    | .value c => [⟨c, false⟩]
    | _ => []

/-- The fields of a word so far, the last one first. -/
structure Fields where
  closed : List (List Glyph)
  /-- The characters of the open field, the last one first. -/
  last : Option (List Glyph)
  /-- Whether blanks have closed the last field. -/
  afterBlank : Bool

def Fields.close (f : Fields) (afterBlank : Bool) : Fields :=
  match f.last with
  | some w => ⟨w.reverse :: f.closed, none, afterBlank⟩
  | none => { f with afterBlank := f.afterBlank && afterBlank }

/-- Adds a character, where values are split at separators. Separators that are no blanks end a
field each. -/
def Fields.add (separators : List Char) (f : Fields) (g : Glyph) : Fields :=
  match g with
  | .gap quoted => f.close !quoted
  | .value c =>
    if !separators.contains c then push g
    else if c = ' ' ∨ c = '\t' ∨ c = '\n' then f.close true
    else
      match f.last with
      | some _ => f.close false
      | none => if f.afterBlank then { f with afterBlank := false }
        else ⟨[] :: f.closed, none, false⟩
  | g => push g
where
  push (g : Glyph) : Fields := ⟨f.closed, some (g :: f.last.getD []), false⟩

def splitFields (separators : List Char) (w : List Glyph) : List (List Glyph) :=
  ((w.foldl (Fields.add separators) ⟨[], none, false⟩).close false).closed.reverse

def isSign (c : PatternChar) : Bool := c.active && (c.char = '*' || c.char = '?' || c.char = '[')

def splitParts : List PatternChar → List (List PatternChar)
  | [] => [[]]
  | c :: rest =>
    match splitParts rest with
    | [] => [[c]]
    | part :: parts => if c.char = '/' then [] :: part :: parts else (c :: part) :: parts

/-- The names in a directory that a part of a pattern fits. A dot at the start has to be given. -/
def fittingNames (fs : Files) (directory : String) (part : List PatternChar) : List String :=
  let path := if directory.isEmpty then "." else directory
  let names := ((fs.list (ByteText.decode path)).toOption.getD []).map ByteText.encode
  let names := "." :: ".." :: names
  let pattern := Pattern.ofChars part
  let dotted := (part.head?.map (·.char)) = some '.'
  names.filter fun name => (dotted || !name.startsWith ".") && pattern.fits name.toList

def leadsSomewhere (fs : Files) (path : String) : Bool :=
  (fs.findItself (ByteText.decode path)).isOk

def fittingPaths (fs : Files) : (path : String) → List (List PatternChar) → List String
  | path, [] => if leadsSomewhere fs path then [path] else []
  | path, part :: rest =>
    let slash := if rest.isEmpty then "" else "/"
    let names :=
      if part.any isSign then fittingNames fs path part
      else [String.ofList (part.map (·.char))]
    names.flatMap fun name => fittingPaths fs (path ++ name ++ slash) rest

/-- What a field stands for: the paths that it fits, in rising order, or its text. -/
def expandField (fs : Files) (w : List Glyph) : List String :=
  let pattern := patternChars w
  let found :=
    if pattern.any isSign then
      (fittingPaths fs "" (splitParts pattern)).mergeSort fun a b => decide (a ≤ b)
    else []
  if found.isEmpty then [textOf w] else found

end FlashImage.Shell
