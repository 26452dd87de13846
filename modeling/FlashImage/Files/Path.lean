/-!
Paths as texts: names parted by slashes.

A path is only ever put together and taken apart here. What it leads to is a question to the files.
-/

set_option autoImplicit false
set_option relaxedAutoImplicit false

namespace FlashImage.Path

def isAbsolute (path : String) : Bool := path.toList.head? == some '/'

def join (directory path : String) : String :=
  if isAbsolute path then path
  else
    match directory.toList.getLast? with
    | none => path
    | some '/' => directory ++ path
    | some _ => directory ++ "/" ++ path

def splitSlash : List Char → List (List Char)
  | [] => [[]]
  | c :: rest =>
    if c = '/' then [] :: splitSlash rest
    else
      match splitSlash rest with
      | [] => [[c]]
      | part :: parts => (c :: part) :: parts

def parts (path : String) : List String := (splitSlash path.toList).map String.ofList

/-- Drops, from the reverse of a path, the slashes and the dots at its end that lead nowhere. The
slash at the root stays. -/
def dropIdle : List Char → List Char
  | '/' :: c :: rest => dropIdle (c :: rest)
  | '.' :: '/' :: rest => dropIdle ('/' :: rest)
  | s => s

private theorem length_dropIdle_le (s : List Char) : (dropIdle s).length ≤ s.length := by
  fun_induction dropIdle s with
  | case1 c rest ih => exact Nat.le_trans ih (Nat.le_succ _)
  | case2 rest ih => exact Nat.le_trans ih (Nat.le_succ _)
  | case3 => exact Nat.le_refl _

/-- The reverse of the path of the directory that holds what a path leads to, given the reverse of
the path. The root and the empty path have none. -/
def reverseParent? (s : List Char) : Option (List Char) :=
  match dropIdle s with
  | [] => none
  | ['/'] => none
  | _ :: rest => some (dropIdle (rest.dropWhile (· ≠ '/')))

theorem length_reverseParent?_lt {s r : List Char} (h : reverseParent? s = some r) :
    r.length < s.length := by
  have hs := length_dropIdle_le s
  unfold reverseParent? at h
  split at h
  · cases h
  · cases h
  · rename_i c rest _ heq
    cases h
    have hr := length_dropIdle_le (rest.dropWhile (· ≠ '/'))
    have hd : (rest.dropWhile (· ≠ '/')).length ≤ rest.length :=
      (List.dropWhile_sublist _).length_le
    rw [heq, List.length_cons] at hs
    omega

def parent? (path : String) : Option String :=
  (reverseParent? path.toList.reverse).map fun s => String.ofList s.reverse

/-- Whether a name ends in a point and the given letters, with something before them. -/
def hasExtension (letters name : String) : Bool :=
  let ending := '.' :: letters.toList
  ending.isSuffixOf name.toList && ending.length < name.toList.length

end FlashImage.Path
