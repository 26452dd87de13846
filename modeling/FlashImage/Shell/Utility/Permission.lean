import FlashImage.Shell.Utility.Tree

/-!
Permissions: how they are written, and the program that changes them.

Permissions are three times three bits, for the owner, for a group and for all others.
-/

set_option autoImplicit false
set_option relaxedAutoImplicit false

namespace FlashImage.Shell

def octal? (s : String) : Option Nat :=
  if s.isEmpty || !s.toList.all (fun c => '0' ≤ c && c ≤ '7') then none
  else some (s.toList.foldl (fun n c => n * 8 + (c.toNat - '0'.toNat)) 0)

def octalDigits (width n : Nat) : String :=
  let digits := Nat.toDigits 8 n
  String.ofList (List.replicate (width - digits.length) '0' ++ digits)

def hasBit (n weight : Nat) : Bool := (n / weight) % 2 = 1

def permissionLetters (mode : Nat) : String :=
  String.ofList ([256, 128, 64, 32, 16, 8, 4, 2, 1].zip "rwxrwxrwx".toList |>.map fun (w, c) =>
    if hasBit mode w then c else '-')

/-- A change of permissions: who it is for, its sign, and the permissions. -/
structure PermissionChange where
  who : List Char
  sign : Char
  letters : List Char

/-- The weights of the permissions for someone: a factor for the bits. -/
def whoFactor : Char → Nat
  | 'u' => 64
  | 'g' => 8
  | _ => 1

def PermissionChange.apply (c : PermissionChange) (isDirectory : Bool) (mode : Nat) : Nat :=
  let who := if c.who.isEmpty || c.who.contains 'a' then ['u', 'g', 'o'] else c.who
  let executes := isDirectory || mode % 2 = 1 || hasBit mode 8 || hasBit mode 64
  let bits (letter : Char) : Nat :=
    match letter with
    | 'r' => 4
    | 'w' => 2
    | 'x' => 1
    | 'X' => if executes then 1 else 0
    | _ => 0
  let copied (letter : Char) : Nat :=
    if "ugo".toList.contains letter then (mode / whoFactor letter) % 8 else 0
  let asked := c.letters.foldl (fun n l => n ||| bits l ||| copied l) 0
  let masked (factor : Nat) : Nat := if c.who.isEmpty && factor ≠ 64 then asked &&& 5 else asked
  who.foldl (fun mode w =>
    let factor := whoFactor w
    let own := (mode / factor) % 8
    let asked := masked factor
    let new :=
      match c.sign with
      | '+' => own ||| asked
      | '-' => own - (own &&& asked)
      | _ => asked
    mode - own * factor + new * factor) mode

def readChanges (who : List Char) : (limit : Nat) → List Char → Option (List PermissionChange)
  | 0, _ => none
  | _, [] => some []
  | limit + 1, sign :: rest =>
    if !"+-=".toList.contains sign then none
    else
      let letters := rest.takeWhile fun c => "rwxXstugo".toList.contains c
      (readChanges who limit (rest.drop letters.length)).map (⟨who, sign, letters⟩ :: ·)

def readMode? (s : String) : Option (Nat ⊕ List PermissionChange) :=
  match octal? s with
  | some n => if n < 4096 then some (.inl n) else none
  | none =>
    let clause (s : String) : Option (List PermissionChange) :=
      let who := s.toList.takeWhile fun c => "ugoa".toList.contains c
      let rest := s.toList.drop who.length
      if rest.isEmpty then none else readChanges who (rest.length + 1) rest
    ((s.splitOn ",").mapM clause).map fun changes => .inr changes.flatten

def newMode (asked : Nat ⊕ List PermissionChange) (isDirectory : Bool) (mode : Nat) : Nat :=
  match asked with
  | .inl n => n
  | .inr changes => changes.foldl (fun mode c => c.apply isDirectory mode) mode

def changeMode (g : Given) (asked : Nat ⊕ List PermissionChange) (isTop : Bool) :
    (depth : Nat) → (path : String) → Program Unit
  | 0, _ => return ()
  | depth + 1, path => do
    let itself ← entryItself path
    let isLink := match itself with
      | .ok (_, .link _) => true
      | _ => false
    if isLink && !isTop then return
    match ← entryOf path with
    | .error fault =>
      if !g.has 'f' && isLink then
        Program.complain ("cannot operate on dangling symlink " ++ shownPath path)
      else if !g.has 'f' then
        Program.complain ("cannot access " ++ shownPath path ++ ": " ++ faultWording fault)
      Program.setStatus 1
    | .ok (l, entry) =>
      let before := (← get).world.mode l
      let after := newMode asked (entry = .directory) before
      changeWorld fun w => w.setMode l after
      let shown (mode : Nat) : String := octalDigits 4 mode ++ " (" ++ permissionLetters mode ++ ")"
      if before ≠ after && (g.has 'v' || g.has 'c') then
        Program.printText ("mode of " ++ shownPath path ++ " changed from " ++ shown before ++
          " to " ++ shown after ++ "\n")
      else if g.has 'v' then
        Program.printText
          ("mode of " ++ shownPath path ++ " retained as " ++ shown after ++ "\n")
      if entry = .directory && g.has 'R' then
        let names := ((← Program.files).list (ByteText.decode path)).toOption.getD []
        (names.map ByteText.encode).forM fun name =>
          changeMode g asked false depth (withoutSlashes path ++ "/" ++ name)

def changeModes (arguments : List String) : Program Unit := do
  let isMode (s : String) : Bool :=
    s.startsWith "-" && s.length ≠ 1 && (s.toList.drop 1).all fun c => "rwxX".toList.contains c
  let modes := arguments.filter isMode
  let specs := flags "cfvR" ++ settings "Z" ++ [⟨'R', "recursive", false⟩, ⟨'v', "verbose", false⟩,
    ⟨'f', "quiet", false⟩, ⟨'r', "reference", true⟩]
  let g ← givenTo specs (arguments.filter (!isMode ·))
  let operands := modes.take 1 ++ g.operands
  match operands with
  | [] => Program.refuseUsage 1 "missing operand"
  | [mode] => Program.refuseUsage 1 ("missing operand after " ++ shownPath mode)
  | mode :: paths =>
    match readMode? mode with
    | none => Program.refuseUsage 1 ("invalid mode: " ++ shownPath mode)
    | some asked => paths.forM (changeMode g asked true treeDepth)

end FlashImage.Shell
