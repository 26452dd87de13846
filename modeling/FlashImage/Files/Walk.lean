import FlashImage.Files.Basic
import FlashImage.Files.Fault
import FlashImage.Files.Path

/-!
Where a path leads.

A path is followed name by name. All its parts but the last have to lead to directories. What the
last part may be is a matter of the operation, so it is kept apart. A link among the parts is
followed, and at the end of a path it is if the operation asks for that.
-/

set_option autoImplicit false
set_option relaxedAutoImplicit false

namespace FlashImage

/-- The last part of a path. -/
inductive LastPart
  /-- A name. A slash may follow it. -/
  | name (s : String) (slash : Bool)
  /-- A dot, or nothing but slashes. -/
  | here
  /-- Two dots. -/
  | up
  deriving DecidableEq, Repr

/-- Splits a path before its last part. Slashes at its end belong to that part. -/
def Path.splitLast (path : String) : List String × LastPart :=
  let reversed := (parts path).reverse
  match reversed.dropWhile (· = "") with
  | [] => ([], .here)
  | "." :: before => (before.reverse, .here)
  | ".." :: before => (before.reverse, .up)
  | s :: before => (before.reverse, .name s (reversed.head? == some ""))

/-- Where a path leads: to a directory, and from there by the last part. -/
structure Target where
  directory : Location
  last : LastPart
  deriving DecidableEq, Repr

def pathOf (l : Location) : String := "/" ++ String.intercalate "/" l

namespace Files

def nameLimit : Nat := 255

def pathLimit : Nat := 4096

def inDirectory (fs : Files) (directory : Location) (name : String) :
    Except FileFault (Location × Option Entry) :=
  if nameLimit < name.utf8ByteSize then .error .nameTooLong
  else .ok (directory ++ [name], fs.entryAt? (directory ++ [name]))

def linkLimit : Nat := 40

/-- Where a path starts that is followed from a directory. -/
def startOf (path : String) (directory : Location) : Location :=
  if Path.isAbsolute path then [] else directory

/-- Follows parts of a path, which have to lead to directories, over so many links. With where they
lead comes how many links may still be followed. -/
def advance (fs : Files) :
    (links : Nat) → Location → List String → Except FileFault (Location × Nat)
  | links, l, [] => .ok (l, links)
  | links, l, part :: rest =>
    if part = "" ∨ part = "." then fs.advance links l rest
    else if part = ".." then fs.advance links l.dropLast rest
    else
      match fs.inDirectory l part, links with
      | .error fault, _ => .error fault
      | .ok (_, none), _ => .error .notFound
      | .ok (l, some .directory), links => fs.advance links l rest
      | .ok (_, some (.link _)), 0 => .error .tooManyLinks
      | .ok (_, some (.link path)), links + 1 =>
        fs.advance links (startOf path l) (Path.parts path ++ rest)
      | .ok (_, some _), _ => .error .notDirectory
termination_by links _ parts => (links, parts.length)

def follow (fs : Files) (links : Nat) (l : Location) (parts : List String) :
    Except FileFault Location :=
  (fs.advance links l parts).map (·.1)

private theorem le_of_advance {fs : Files} {links left : Nat} {l d : Location} {parts : List String}
    (h : fs.advance links l parts = .ok (d, left)) : left ≤ links := by
  fun_induction advance fs links l parts with
  | case1 =>
    cases h
    exact Nat.le_refl _
  | case2 links l part rest idle ih => exact ih h
  | case3 links l rest named ih => exact ih h
  | case6 l part rest named notUp l' links entry ih => exact ih h
  | case8 l part rest named notUp _ path links entry ih => exact Nat.le_succ_of_le (ih h)
  | case4 | case5 | case7 | case9 => cases h

def checkPath (path : String) : Except FileFault Unit :=
  if path.toList.contains '\x00' then .error .nulInPath
  else if path = "" then .error .notFound
  else if pathLimit ≤ path.utf8ByteSize then .error .nameTooLong
  else .ok ()

def targetOver (fs : Files) (links : Nat) (directory : Location) (path : String) :
    Except FileFault (Target × Nat) :=
  let (before, last) := Path.splitLast path
  match fs.advance links (startOf path directory) before with
  | .error fault => .error fault
  | .ok (directory, left) => .ok (⟨directory, last⟩, left)

private theorem le_of_targetOver {fs : Files} {links left : Nat} {directory : Location}
    {path : String}
    {t : Target} (h : fs.targetOver links directory path = .ok (t, left)) : left ≤ links := by
  unfold targetOver at h
  dsimp only at h
  split at h
  · cases h
  · rename_i hadvance
    cases h
    exact le_of_advance hadvance

def targetFrom (fs : Files) (directory : Location) (path : String) : Except FileFault Target :=
  (fs.targetOver linkLimit directory path).map (·.1)

/-- Follows a path up to its last part. A link there is what the path leads to. -/
def target (fs : Files) (path : String) : Except FileFault Target :=
  match checkPath path with
  | .error fault => .error fault
  | .ok () => fs.targetFrom fs.current path

/-- Follows a path from a directory up to its last part, and goes on if there is a link there. All
links together are so many at most. -/
def reachFrom (fs : Files) (directory : Location) (path : String) (links : Nat) :
    Except FileFault Target :=
  match h : fs.targetOver links directory path with
  | .error fault => .error fault
  | .ok (⟨directory, .name s slash⟩, left) =>
    match fs.entryAt? (directory ++ [s]) with
    | some (.link path) =>
      if hleft : left = 0 then .error .tooManyLinks
      else
        have : left - 1 < links := by
          have := le_of_targetOver h
          omega
        match fs.reachFrom directory path (left - 1) with
        | .ok ⟨directory, .name s slash'⟩ => .ok ⟨directory, .name s (slash || slash')⟩
        | result => result
    | _ => .ok ⟨directory, .name s slash⟩
  | .ok (t, _) => .ok t
termination_by links

def reach (fs : Files) (path : String) : Except FileFault Target :=
  match checkPath path with
  | .error fault => .error fault
  | .ok () => fs.reachFrom fs.current path linkLimit

/-- The location of what is at a target, and what it is. A slash follows the name of a directory
only. -/
def entryOf (fs : Files) : Target → Except FileFault (Location × Entry)
  | ⟨directory, .here⟩ => .ok (directory, .directory)
  | ⟨directory, .up⟩ => .ok (directory.dropLast, .directory)
  | ⟨directory, .name s slash⟩ =>
    match fs.inDirectory directory s with
    | .error fault => .error fault
    | .ok (_, none) => .error .notFound
    | .ok (l, some .directory) => .ok (l, .directory)
    | .ok (l, some entry) => if slash then .error .notDirectory else .ok (l, entry)

/-- The location of something that is there, and what it is. Links are followed. -/
def find (fs : Files) (path : String) : Except FileFault (Location × Entry) :=
  match fs.reach path with
  | .error fault => .error fault
  | .ok t => fs.entryOf t

def findItself (fs : Files) (path : String) : Except FileFault (Location × Entry) :=
  if path.endsWith "/" then fs.find path
  else
    match fs.target path with
    | .error fault => .error fault
    | .ok t => fs.entryOf t

/-- What a link at a location leads to. That link is the first one that is followed. -/
def behindLink (fs : Files) (l : Location) (path : String) : Except FileFault (Location × Entry) :=
  match fs.reachFrom l.dropLast path (linkLimit - 1) with
  | .error fault => .error fault
  | .ok t => fs.entryOf t

/-- All regular files below a directory, each with the names that lead to it from there. A link to a
file counts as one. -/
def filesBelow (fs : Files) (l : Location) : List (Location × Bytes) :=
  fs.entries.filterMap fun (k, e) =>
    if !l.isPrefixOf k then none
    else
      match e with
      | .file content => some (k.drop l.length, content)
      | .link path =>
        match fs.behindLink k path with
        | .ok (_, .file content) => some (k.drop l.length, content)
        | _ => none
      | _ => none

end Files
end FlashImage
