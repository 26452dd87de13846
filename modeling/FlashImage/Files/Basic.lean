import FlashImage.Bytes
import FlashImage.Files.Fault
import FlashImage.Text.Numeral

/-!
The files that a program sees: regular files, directories, links and the null device, each at a
location, and the machine that keeps them.

The root is always a directory. `entryAt?` is the view of the files; `entryAt?_put` and
`entryAt?_remove` say what the operations do to it.

Whether a change of the files succeeds is not a matter of the files alone: a disk may be full, or a
directory closed to the program. So the machine is asked for each change, and may refuse it. A
request that is refused has done nothing.
-/

set_option autoImplicit false
set_option relaxedAutoImplicit false

namespace FlashImage

/-- The names that lead from the root to a file or a directory. -/
abbrev Location := List String

inductive Entry
  | file (content : Bytes)
  | directory
  /-- Stands for what a path leads to from the directory of the link. -/
  | link (path : String)
  /-- The device that is empty and swallows what is written to it. -/
  | null
  deriving DecidableEq, Repr

/-- What a program asks of the machine that it runs on. -/
inductive Request
  | makeDirectory (l : Location)
  /-- A regular file gets a content, and is made if it is not there. -/
  | write (l : Location) (content : Bytes)
  /-- A file is made that is not there yet. -/
  | create (l : Location)
  | fill (l : Location) (content : Bytes)
  /-- What has been written to a file is brought to the disk. -/
  | sync (l : Location)
  | rename (source l : Location)
  /-- More is printed after what has been. -/
  | print (before more : Bytes)

/-- A machine: it gives temporary files their names, and may refuse requests. -/
structure Machine where
  temporaryName : List (Location × Entry) → String
  refusal? : List (Location × Entry) → Request → Option FileFault

namespace Machine

/-- Names of ten bytes. -/
def temporaryNames (count : Nat) : List String :=
  (List.range count).map fun n => ".tmp" ++ Text.zeroFilled 6 (toString n)

def sound : Machine where
  temporaryName entries :=
    let isFree (name : String) : Bool := !entries.any fun entry => entry.1.getLast? = some name
    ((temporaryNames (entries.length + 1)).find? isFree).getD ""
  refusal? _ _ := none

end Machine

/-- The files, the directory from which relative paths start, and the machine. -/
structure Files where
  entries : List (Location × Entry)
  current : Location
  machine : Machine := .sound

namespace Files

def entryAt? (fs : Files) (l : Location) : Option Entry :=
  if l = [] then some .directory else fs.entries.lookup l

def put (fs : Files) (l : Location) (e : Entry) : Files :=
  { fs with entries := (l, e) :: fs.entries.filter (·.1 ≠ l) }

def remove (fs : Files) (l : Location) : Files :=
  { fs with entries := fs.entries.filter (·.1 ≠ l) }

/-- Takes away a location and all below it. -/
def removeAll (fs : Files) (l : Location) : Files :=
  { fs with entries := fs.entries.filter fun entry => !l.isPrefixOf entry.1 }

private theorem lookup_filter (entries : List (Location × Entry)) (l m : Location) :
    (entries.filter (·.1 ≠ l)).lookup m = if m = l then none else entries.lookup m := by
  induction entries with
  | nil => simp
  | cons x rest ih =>
    obtain ⟨k, e⟩ := x
    by_cases hk : k = l
    · subst hk
      rw [List.filter_cons_of_neg (by simp), ih]
      by_cases hm : m = k
      · simp [hm]
      · simp [hm, List.lookup_cons, beq_eq_false_iff_ne.2 hm]
    · rw [List.filter_cons_of_pos (by simp [hk]), List.lookup_cons, List.lookup_cons, ih]
      by_cases hm : m = k
      · subst hm
        simp [hk]
      · simp [beq_eq_false_iff_ne.2 hm]

theorem entryAt?_put (fs : Files) (l m : Location) (e : Entry) (hl : l ≠ []) :
    (fs.put l e).entryAt? m = if m = l then some e else fs.entryAt? m := by
  unfold put entryAt?
  by_cases hm : m = l
  · subst hm
    simp [hl]
  · simp only [List.lookup_cons, beq_eq_false_iff_ne.2 hm, lookup_filter, hm, if_false]

theorem entryAt?_remove (fs : Files) (l m : Location) (hl : l ≠ []) :
    (fs.remove l).entryAt? m = if m = l then none else fs.entryAt? m := by
  unfold remove entryAt?
  by_cases hm : m = l
  · subst hm
    simp only [lookup_filter, hl, if_false, if_true]
  · simp only [lookup_filter, hm, if_false]

def ask (fs : Files) (r : Request) : Except FileFault Unit :=
  match fs.machine.refusal? fs.entries r with
  | some fault => .error fault
  | none => .ok ()

def isDirectoryAt (fs : Files) (l : Location) : Bool := fs.entryAt? l == some .directory

def children (fs : Files) (l : Location) : List (String × Entry) :=
  fs.entries.filterMap fun (k, e) =>
    match k.getLast? with
    | some name => if k.dropLast = l then some (name, e) else none
    | none => none

end Files
end FlashImage
