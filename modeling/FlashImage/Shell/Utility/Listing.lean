import FlashImage.Shell.Utility.Permission

/-!
Programs that tell what is in directories, and what is known of files.

Names are sorted by their bytes. Names with a point at their start are left out unless they are
asked for. All times are the start of the epoch, since files have none here.
-/

set_option autoImplicit false
set_option relaxedAutoImplicit false

namespace FlashImage.Shell

/-- Something to be listed. -/
structure Listed where
  name : String
  location : Location
  entry : Entry

def Listed.size (l : Listed) : Nat :=
  match l.entry with
  | .file b => b.length
  | .directory => 4096
  | .link path => path.utf8ByteSize
  | .null => 0

def Listed.isLink (l : Listed) : Bool :=
  match l.entry with
  | .link _ => true
  | _ => false

/-- What something leads to if it is a link, and else the thing itself. -/
def Listed.followed (w : World) (l : Listed) : Except FileFault Listed :=
  match l.entry with
  | .link path => do
    let (location, entry) ← w.files.behindLink l.location path
    return { l with location := location, entry := entry }
  | _ => .ok l

def Listed.blocks (l : Listed) : Nat := if l.isLink then 0 else (l.size + 4095) / 4096 * 4

def Listed.kind (l : Listed) : Char :=
  match l.entry with
  | .file _ => '-'
  | .directory => 'd'
  | .link _ => 'l'
  | .null => 'c'

def Listed.letters (w : World) (l : Listed) : String :=
  l.kind.toString ++ permissionLetters (w.mode l.location)

def sortedChildren (w : World) (directory : Location) : List Listed :=
  let all := (w.files.children directory).map fun (name, e) =>
    (⟨ByteText.encode name, directory ++ [name], e⟩ : Listed)
  all.mergeSort fun a b => a.name ≤ b.name

/-- The number of names that something has. A directory has one in each directory that it holds. -/
def Listed.links (w : World) (l : Listed) : Nat :=
  match l.entry with
  | .directory =>
    2 + ((w.files.children l.location).filter fun (_, e) => e == .directory).length
  | _ => (w.sharing l.location).length

def padStart (width : Nat) (s : String) : String :=
  String.ofList (List.replicate (width - s.length) ' ') ++ s

theorem length_padStart (width : Nat) (s : String) (h : s.length ≤ width) :
    (padStart width s).length = width := by
  simp [padStart]
  omega

def Listed.mark (g : Given) (w : World) (l : Listed) : String :=
  match l.entry with
  | .directory => if g.has 'F' || g.has 'p' then "/" else ""
  | .file _ => if g.has 'F' && w.mayExecute l.location then "*" else ""
  | .link _ => if g.has 'F' then "@" else ""
  | .null => ""

def Listed.shown (g : Given) (w : World) (l : Listed) : String :=
  let name := if g.has 'Q' then "\"" ++ l.name ++ "\"" else l.name
  name ++ l.mark g w

def Listed.shownWhole (g : Given) (w : World) (l : Listed) : String :=
  match l.entry with
  | .link path =>
    let bare : Given := { g with options := g.options.filter fun (c, _) => c ≠ 'F' && c ≠ 'p' }
    let target : Listed := { l with name := ByteText.encode path }
    let target := (target.followed w).toOption.getD target
    l.shown bare w ++ " -> " ++ target.shown (if target.isLink then bare else g) w
  | _ => l.shown g w

def longLines (g : Given) (w : World) (all : List Listed) : List String :=
  let width (f : Listed → Nat) : Nat := (all.map fun l => (toString (f l)).length).foldl max 1
  let user := if g.has 'n' then "0" else "root"
  all.map fun l =>
    let owner := if g.has 'g' then "" else user ++ " "
    let group := if g.has 'o' || g.has 'G' then "" else user ++ " "
    l.letters w ++ " " ++ padStart (width (Listed.links w)) (toString (l.links w)) ++ " " ++
      owner ++ group ++ padStart (width Listed.size) (toString l.size) ++ " Jan  1  1970 " ++
      l.shownWhole g w

def isLongListing (g : Given) : Bool := g.has 'l' || g.has 'n' || g.has 'g' || g.has 'o'

def printListed (g : Given) (all : List Listed) : Program Unit := do
  let w := (← get).world
  let blocks (l : Listed) : String :=
    if g.has 's' then
      let width := (all.map fun l => (toString l.blocks).length).foldl max 1
      padStart width (toString l.blocks) ++ " "
    else ""
  if isLongListing g then
    printLines ((all.zip (longLines g w all)).map fun (l, line) => blocks l ++ line)
  else
    let names := all.map fun l => blocks l ++ l.shown g w
    if names.isEmpty then return ()
    else if g.has 'm' then Program.printText (", ".intercalate names ++ "\n")
    else if g.has 'C' || g.has 'x' then Program.printText ("  ".intercalate names ++ "\n")
    else printLines names

def inListedOrder (g : Given) (all : List Listed) : List Listed :=
  let all := if g.has 'S' then all.mergeSort fun a b => b.size ≤ a.size else all
  if g.has 'r' then all.reverse else all

def shownChildren (g : Given) (w : World) (directory : Location) : List Listed :=
  let isVisible (l : Listed) : Bool := g.has 'a' || g.has 'A' || !l.name.startsWith "."
  let around : List Listed :=
    if g.has 'a' then [⟨".", directory, .directory⟩, ⟨"..", directory.dropLast, .directory⟩]
    else []
  inListedOrder g (around ++ (sortedChildren w directory).filter isVisible)

/-- Lists a directory, and those that it holds if that is asked for, down to a depth. -/
def listDirectory (g : Given) (hasTitle : Bool) : (depth : Nat) → (isFirst : Bool) →
    (path : String) → Location → Program Unit
  | 0, _, _, _ => return ()
  | depth + 1, isFirst, path, directory => do
    let w := (← get).world
    let all ← (shownChildren g w directory).mapM fun l => do
      if !g.has 'L' then return l
      match l.followed w with
      | .ok target => return target
      | .error fault =>
        if isLongListing g || g.has 's' || g.has 'S' then
          Program.object
            ("cannot access " ++ shownPath (path ++ "/" ++ l.name) ++ ": " ++ faultWording fault)
        return l
    if !isFirst then Program.printText "\n"
    if hasTitle then Program.printText (path ++ ":\n")
    if isLongListing g || g.has 's' then
      Program.printText ("total " ++ toString ((all.map Listed.blocks).foldl (· + ·) 0) ++ "\n")
    printListed g all
    if g.has 'R' then
      let inside := all.filter fun l => l.entry == .directory && l.name ≠ "." && l.name ≠ ".."
      inside.forM fun l =>
        let below := if path.endsWith "/" then path ++ l.name else path ++ "/" ++ l.name
        listDirectory g hasTitle depth false below l.location

def listingDepth : Nat := 2048

/-- What a path stands for in a listing. A link that is named leads to the directory behind it,
unless the listing tells about links. -/
def listedAt (g : Given) (path : String) : Program (Except FileFault (Location × Entry)) := do
  let tellsLinks := isLongListing g || g.has 'd' || g.has 'F'
  match ← Program.find path, ← Program.findItself path with
  | .ok (l, .directory), itself =>
    if !tellsLinks || g.has 'L' || g.has 'H' then return .ok (l, .directory) else return itself
  | .ok found, itself => if g.has 'L' || g.has 'H' then return .ok found else return itself
  | .error fault, itself => if g.has 'L' then return .error fault else return itself

def listPaths (arguments : List String) : Program Unit := do
  let g ← readGiven (flags "aAbBcCdfFgGhHiklLmnNopqQrRsStuUvxXZ1" ++ [⟨'a', "all", false⟩,
    ⟨'A', "almost-all", false⟩, ⟨'d', "directory", false⟩, ⟨'R', "recursive", false⟩,
    ⟨'r', "reverse", false⟩, ⟨'F', "classify", false⟩, ⟨'Q', "quote-name", false⟩,
    ⟨'n', "numeric-uid-gid", false⟩, ⟨'h', "human-readable", false⟩, ⟨'G', "no-group", false⟩,
    ⟨'s', "size", false⟩, ⟨'L', "dereference", false⟩,
    ⟨'H', "dereference-command-line", false⟩]) 2 false (arguments.length + 1) arguments
  let paths := if g.operands.isEmpty then ["."] else g.operands
  let found ← paths.mapM fun path => do
    match ← listedAt g path with
    | .ok (l, e) => return some (⟨path, l, e⟩ : Listed)
    | .error fault =>
      Program.complain ("cannot access " ++ shownPath path ++ ": " ++ faultWording fault)
      Program.setStatus 2
      return none
  let found := inListedOrder g ((found.filterMap id).mergeSort fun a b => a.name ≤ b.name)
  let isOpened (l : Listed) : Bool := l.entry == .directory && !g.has 'd'
  let (directories, files) := found.partition isOpened
  printListed g files
  let hasTitle := 1 < paths.length || g.has 'R'
  let _ ← directories.foldlM (fun isFirst l => do
    listDirectory g hasTitle listingDepth isFirst l.name l.location
    return false) files.isEmpty

def inBase (base n : Nat) : String := String.ofList (Nat.toDigits base n)

/-- The number for the kind of something, which is added to its permissions. -/
def Listed.kindNumber (l : Listed) : Nat :=
  match l.entry with
  | .file _ => 32768
  | .directory => 16384
  | .link _ => 40960
  | .null => 8192

/-- What a directive stands for in the format of what is known of a file. -/
def detail (w : World) (l : Listed) : Char → String
  | 'n' => l.name
  | 'N' =>
    match l.entry with
    | .link path => shownPath l.name ++ " -> " ++ shownPath (ByteText.encode path)
    | _ => shownPath l.name
  | 's' => toString l.size
  | 'a' => inBase 8 (w.mode l.location)
  | 'A' => l.letters w
  | 'f' => inBase 16 (l.kindNumber + w.mode l.location)
  | 'F' =>
    match l.entry with
    | .file [] => "regular empty file"
    | .file _ => "regular file"
    | .directory => "directory"
    | .link _ => "symbolic link"
    | .null => "character special file"
  | 'U' => "root"
  | 'G' => "root"
  | 'h' => toString (l.links w)
  | 'b' => toString (l.blocks * 2)
  | 'B' => "512"
  | 'o' => "4096"
  | '%' => "%"
  | c => if "ugXYZW".toList.contains c then "0" else "?"

def detailText (w : World) (l : Listed) (escapes : Bool) : List Char → List Char
  | '%' :: c :: rest => (detail w l c).toList ++ detailText w l escapes rest
  | '\\' :: c :: rest =>
    if !escapes then '\\' :: c :: detailText w l escapes rest
    else
      let shown := match c with
        | 'n' => ['\n']
        | 't' => ['\t']
        | '0' => ['\x00']
        | '\\' => ['\\']
        | c => ['\\', c]
      shown ++ detailText w l escapes rest
  | c :: rest => c :: detailText w l escapes rest
  | [] => []

def printDetails (arguments : List String) : Program Unit := do
  let g ← givenTo (flags "Lft" ++ settings "c" ++ [⟨'c', "format", true⟩, ⟨'P', "printf", true⟩,
    ⟨'L', "dereference", false⟩]) arguments
  if g.operands.isEmpty then Program.refuseUsage 1 "missing operand"
  g.operands.forM fun path => do
    match ← if g.has 'L' then Program.find path else Program.findItself path with
    | .error fault =>
      Program.object ("cannot statx " ++ shownPath path ++ ": " ++ faultWording fault)
    | .ok (l, e) =>
      let w := (← get).world
      let one : Listed := ⟨path, l, e⟩
      let text (escapes : Bool) (format : String) : String :=
        String.ofList (detailText w one escapes format.toList)
      match g.value? 'P', g.value? 'c' with
      | some format, _ => Program.printText (text true format)
      | none, some format => Program.printText (text false format ++ "\n")
      | none, none =>
        Program.printText (text true ("  File: %n\\n  Size: %s\\n" ++
          "Access: (0%a/%A)  Uid: (    0/    root)   Gid: (    0/    root)\\n"))

/-- The sizes of directories and of all that they hold, down to a depth. -/
def sizesBelow (w : World) (size : Listed → Nat) : (depth : Nat) → Listed →
    List (Listed × Nat)
  | 0, _ => []
  | depth + 1, l =>
    if l.entry == .directory then
      let below := (sortedChildren w l.location).map fun inner =>
        let path := if l.name.endsWith "/" then l.name ++ inner.name
          else l.name ++ "/" ++ inner.name
        sizesBelow w size depth { inner with name := path }
      let total := below.foldl (fun n parts => n + ((parts.getLast?).map (·.2)).getD 0) (size l)
      below.flatten ++ [(l, total)]
    else [(l, size l)]

def printSizes (arguments : List String) : Program Unit := do
  let g ← givenTo (flags "abchksxLDP" ++ settings "d" ++ [⟨'s', "summarize", false⟩,
    ⟨'b', "bytes", false⟩, ⟨'a', "all", false⟩, ⟨'d', "max-depth", true⟩]) arguments
  let paths := if g.operands.isEmpty then ["."] else g.operands
  paths.forM fun path => do
    match ← if g.has 'L' || g.has 'D' then Program.find path else Program.findItself path with
    | .error fault =>
      Program.object ("cannot access " ++ shownPath path ++ ": " ++ faultWording fault)
    | .ok (l, e) =>
      let w := (← get).world
      let size (l : Listed) : Nat :=
        if g.has 'b' then (if l.entry == .directory then 0 else l.size) else l.blocks
      let all := sizesBelow w size listingDepth ⟨path, l, e⟩
      let shown := all.filter fun (one, _) =>
        one.name = path || (!g.has 's' && (g.has 'a' || one.entry == .directory))
      printLines (shown.map fun (one, n) => toString n ++ "\t" ++ one.name)

end FlashImage.Shell
