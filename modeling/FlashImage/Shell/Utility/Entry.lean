import FlashImage.Shell.Utility.Permission

/-!
Programs that make and change single files and directories, and those that tell about their paths.
-/

set_option autoImplicit false
set_option relaxedAutoImplicit false

namespace FlashImage.Shell

/-- Makes one directory. The result says whether that has worked. -/
def makeOne (g : Given) (path : String) : Program Bool := do
  match (← Program.files).makeDirectory (ByteText.decode path) with
  | .ok fs =>
    Program.setFiles fs
    if g.has 'v' then
      Program.printText ((← get).speaker ++ ": created directory " ++ shownPath path ++ "\n")
    return true
  | .error fault =>
    Program.object ("cannot create directory " ++ shownPath path ++ ": " ++ faultWording fault)
    return false

def leadingPaths (path : String) : List String :=
  let chars := path.toList
  let ends := (List.range chars.length).filter fun i =>
    chars[i]? ≠ some '/' && (chars[i + 1]? = some '/' || i + 1 = chars.length)
  ends.map fun i => String.ofList (chars.take (i + 1))

def makeWithParents (g : Given) (path : String) : Program Unit := do
  if path.isEmpty then let _ ← makeOne g path
  let _ ← (leadingPaths path).foldlM (fun goesOn one => do
    if !goesOn then return false
    match ← entryOf one with
    | .ok (_, .directory) => return true
    | .ok _ => do
      let isLast := one = withoutSlashes path
      let fault : FileFault := if isLast then .alreadyExists else .notDirectory
      Program.object ("cannot create directory " ++ shownPath one ++ ": " ++ faultWording fault)
      return false
    | .error _ => makeOne g one) true

def makePaths (arguments : List String) : Program Unit := do
  let g ← givenTo (flags "pvZ" ++ settings "m" ++ [⟨'p', "parents", false⟩,
    ⟨'v', "verbose", false⟩, ⟨'m', "mode", true⟩]) arguments
  if g.operands.isEmpty then Program.refuseUsage 1 "missing operand"
  let asked ← match g.value? 'm' with
    | none => pure none
    | some mode =>
      match readMode? mode with
      | some asked => pure (some asked)
      | none => Program.refuse ("invalid mode " ++ shownPath mode)
  g.operands.forM fun path => do
    if g.has 'p' then makeWithParents g path
    else
      let made ← makeOne g path
      match made, asked, (← entryOf path) with
      | true, some asked, .ok (l, _) =>
        changeWorld fun w => w.setMode l (newMode asked true 511)
      | _, _, _ => pure ()

/-- Takes away an empty directory. The result says whether that has worked. -/
def removeEmpty (g : Given) (lead path : String) : Program Bool := do
  if g.has 'v' then
    Program.printText ((← get).speaker ++ ": removing directory, " ++ shownPath path ++ "\n")
  let refuse (wording : String) : Program Bool := do
    Program.object ("failed to remove " ++ lead ++ shownPath path ++ ": " ++ wording)
    return false
  let last := lastName path
  match ← entryItself path with
  | .error fault => refuse (faultWording fault)
  | .ok (l, .directory) =>
    if last = "." then refuse "Invalid argument"
    else if last = ".." then refuse "Directory not empty"
    else if ((← Program.files).children l).isEmpty then
      changeWorld fun w => w.removeAll l
      return true
    else if g.has 'i' then return false
    else refuse "Directory not empty"
  | .ok _ => refuse "Not a directory"

def removeEmpties (arguments : List String) : Program Unit := do
  let g ← givenTo (flags "pv" ++ [⟨'i', "ignore-fail-on-non-empty", false⟩,
    ⟨'p', "parents", false⟩, ⟨'v', "verbose", false⟩]) arguments
  if g.operands.isEmpty then Program.refuseUsage 1 "missing operand"
  g.operands.forM fun path => do
    let worked ← removeEmpty g "" path
    if worked && g.has 'p' then
      let parents := (leadingPaths path).dropLast.reverse
      let _ ← parents.foldlM (fun goesOn one => do
        if goesOn then removeEmpty g "directory " one else return false) true

/-- Whether a text is a time as a program for that takes it, in digits. -/
def isTimeStamp (s : String) : Bool :=
  let (digits, seconds) :=
    match s.splitOn "." with
    | [digits, seconds] => (digits, seconds)
    | _ => (s, "00")
  (decimal? digits).isSome && [8, 10, 12].contains digits.length &&
    (decimal? seconds).isSome && seconds.length = 2

def touchPaths (arguments : List String) : Program Unit := do
  let g ← givenTo (flags "acfhm" ++ settings "drt" ++ [⟨'c', "no-create", false⟩,
    ⟨'d', "date", true⟩, ⟨'r', "reference", true⟩,
    ⟨'h', "no-dereference", false⟩]) arguments
  match g.value? 'r' with
  | some path =>
    match ← entryOf path with
    | .ok _ => pure ()
    | .error fault =>
      Program.refuse
        ("failed to get attributes of " ++ shownPath path ++ ": " ++ faultWording fault)
  | none => pure ()
  match g.value? 't' with
  | some s => if !isTimeStamp s then Program.refuse ("invalid date format " ++ shownPath s)
  | none => pure ()
  match g.value? 'd' with
  | some s =>
    if !(s.toList.any Char.isDigit || ["now", "today", "yesterday"].contains s) then
      Program.refuse ("invalid date format " ++ shownPath s)
  | none => pure ()
  if g.operands.isEmpty then Program.refuseUsage 1 "missing file operand"
  g.operands.forM fun path => do
    match ← if g.has 'h' then entryItself path else entryOf path with
    | .ok _ => return ()
    | .error fault =>
      let isThere := path.endsWith "/" && (← entryOf (withoutSlashes path)).isOk
      if isThere then
        Program.object ("setting times of " ++ shownPath path ++ ": " ++ faultWording fault)
      else if fault = .notFound && g.has 'c' then return ()
      else
        match ← Program.writePath path .append [] with
        | .ok () => return ()
        | .error .isDirectory =>
          Program.object ("setting times of " ++ shownPath path ++ ": No such file or directory")
        | .error fault =>
          Program.object ("cannot touch " ++ shownPath path ++ ": " ++ faultWording fault)

/-- The size that a text asks for, seen from the size that there is. -/
def sizeAsked? (text : String) (size : Nat) : Option (Except String Nat) :=
  let number (digits : List Char) : Option Nat := readCount? countFactors (String.ofList digits)
  let relative (digits : List Char) (f : Nat → Except String Nat) : Option (Except String Nat) :=
    (number digits).map f
  let divided (f : Nat → Nat) (n : Nat) : Except String Nat :=
    if n = 0 then .error "division by zero" else .ok (f n)
  match text.toList with
  | '+' :: digits => relative digits fun n => .ok (size + n)
  | '-' :: digits => relative digits fun n => .ok (size - n)
  | '<' :: digits => relative digits fun n => .ok (min size n)
  | '>' :: digits => relative digits fun n => .ok (max size n)
  | '/' :: digits => relative digits (divided fun n => size / n * n)
  | '%' :: digits => relative digits (divided fun n => (size + n - 1) / n * n)
  | digits => relative digits .ok

def resizePaths (arguments : List String) : Program Unit := do
  let g ← givenTo (flags "co" ++ settings "rs" ++ [⟨'s', "size", true⟩, ⟨'c', "no-create", false⟩,
    ⟨'r', "reference", true⟩]) arguments
  if (g.value? 's').isNone && (g.value? 'r').isNone then
    Program.refuseUsage 1 "you must specify either '--size' or '--reference'"
  let base ← match g.value? 'r' with
    | none => pure none
    | some path =>
      match ← entryOf path with
      | .ok (_, .file b) => pure (some b.length)
      | .ok _ => pure (some 0)
      | .error fault =>
        Program.refuse ("cannot stat " ++ shownPath path ++ ": " ++ faultWording fault)
  let text := (g.value? 's').getD ("+" ++ "0")
  match sizeAsked? text 0 with
  | none => Program.refuse ("Invalid number: " ++ shownPath text)
  | some (.error wording) => Program.refuse wording
  | some (.ok _) => pure ()
  if g.operands.isEmpty then Program.refuseUsage 1 "missing file operand"
  g.operands.forM fun path => do
    let before ← entryOf path
    let content : Bytes := match before with
      | .ok (_, .file b) => b
      | _ => []
    let cannot (fault : FileFault) : Program Unit :=
      Program.object ("cannot open " ++ shownPath path ++ " for writing: " ++ faultWording fault)
    match before with
    | .error .notFound => if g.has 'c' then return
    | _ => pure ()
    match sizeAsked? text (base.getD content.length) with
    | some (.ok size) =>
      let kept := content.take size
      match ← Program.writePath path .write (kept ++ List.replicate (size - kept.length) 0) with
      | .ok () => return ()
      | .error fault => cannot fault
    | _ => return ()

/-- The characters that names are made of which nothing else has. -/
def freshLetters : String := "abcdefghijklmnopqrstuvwxyzABCDEFGHIJKLMNOPQRSTUVWXYZ0123456789"

def freshText (count number : Nat) : String :=
  let letters := freshLetters.toList
  String.ofList ((List.range count).map fun i =>
    letters.getD ((number / Nat.pow letters.length i) % letters.length) 'a')

def freshPath (fs : Files) (lead tail : String) (count : Nat) : (limit : Nat) → (number : Nat) →
    String
  | 0, n => lead ++ freshText count n ++ tail
  | limit + 1, n =>
    let path := lead ++ freshText count n ++ tail
    if (fs.find (ByteText.decode path)).isOk then freshPath fs lead tail count limit (n + 1)
    else path

/-- Makes a file or a directory under a new name, and prints its path. -/
def makeFresh (arguments : List String) : Program Unit := do
  let g ← givenTo (flags "dqtu" ++ settings "p" ++ [⟨'d', "directory", false⟩,
    ⟨'s', "suffix", true⟩, ⟨'p', "tmpdir", true⟩, ⟨'u', "dry-run", false⟩]) arguments
  if 1 < g.operands.length then Program.refuseUsage 1 "too many templates"
  let p ← get
  let scratch := (p.environment.lookup "TMPDIR").getD "/tmp"
  let template := g.operands.headD "tmp.XXXXXXXXXX"
  let directory := match g.value? 'p' with
    | some "" => some scratch
    | some d => some d
    | none => if g.operands.isEmpty || g.has 't' then some scratch else none
  let suffix := g.value? 's'
  let behind := match suffix with
    | some _ => []
    | none => (template.toList.reverse.takeWhile (· ≠ 'X')).reverse
  let behind := if template.toList.contains 'X' then behind else []
  let core := template.toList.take (template.length - behind.length)
  let count := (core.reverse.takeWhile (· = 'X')).length
  if count < 3 then Program.refuse ("too few X's in template " ++ shownPath template)
  let lead := String.ofList (core.take (core.length - count))
  let lead := match directory with
    | some d => if d.endsWith "/" then d ++ lead else d ++ "/" ++ lead
    | none => lead
  let tail := String.ofList behind ++ suffix.getD ""
  let path := freshPath p.world.files lead tail count 100000 p.world.processes
  let kind := if g.has 'd' then "directory" else "file"
  let shown := shownPath (lead ++ String.ofList (List.replicate count 'X') ++ tail)
  let refuse (fault : FileFault) : Program Unit :=
    Program.refuse
      ("failed to create " ++ kind ++ " via template " ++ shown ++ ": " ++ faultWording fault)
  if !g.has 'u' then
    if g.has 'd' then
      match (← Program.files).makeDirectory (ByteText.decode path) with
      | .ok fs => Program.setFiles fs
      | .error fault => refuse fault
    else
      match ← Program.writePath path .write [] with
      | .ok () => pure ()
      | .error fault => refuse fault
  Program.printText (path ++ "\n")

def lineEnd (g : Given) : String := if g.has 'z' then "\x00" else "\n"

def printLastNames (arguments : List String) : Program Unit := do
  let g ← givenStrictlyTo (flags "az" ++ settings "s" ++ [⟨'s', "suffix", true⟩,
    ⟨'a', "multiple", false⟩, ⟨'z', "zero", false⟩]) arguments
  let strip (name suffix : String) : String :=
    if name.endsWith suffix && name ≠ suffix then
      String.ofList (name.toList.take (name.length - suffix.length))
    else name
  let several := g.has 'a' || (g.value? 's').isSome
  match several, g.operands with
  | _, [] => Program.refuseUsage 1 "missing operand"
  | true, paths =>
    paths.forM fun path =>
      Program.printText (strip (lastName path) ((g.value? 's').getD "") ++ lineEnd g)
  | false, [path] => Program.printText (lastName path ++ lineEnd g)
  | false, [path, suffix] => Program.printText (strip (lastName path) suffix ++ lineEnd g)
  | false, _ :: _ :: extra :: _ => Program.refuseUsage 1 ("extra operand " ++ shownPath extra)

def directoryName (path : String) : String :=
  let chars := (withoutSlashes path).toList
  if chars = ['/'] then "/"
  else
    let kept := chars.reverse.dropWhile (· ≠ '/')
    if kept.isEmpty then "."
    else
      let kept := kept.dropWhile (· = '/')
      if kept.isEmpty then "/" else String.ofList kept.reverse

def printDirectories (arguments : List String) : Program Unit := do
  let g ← givenTo (flags "z") arguments
  if g.operands.isEmpty then Program.refuseUsage 1 "missing operand"
  g.operands.forM fun path => Program.printText (directoryName path ++ lineEnd g)

/-- How much of a path has to lead to something. -/
inductive Presence
  | all
  | allButLast
  | none
  deriving DecidableEq, Repr

def resolvePath (presence : Presence) (path : String) :
    Program (Except FileFault String) := do
  let fs ← Program.files
  let shown (l : Location) : String := ByteText.encode (pathOf l)
  match fs.find (ByteText.decode path), presence with
  | .ok (l, _), _ => return .ok (shown l)
  | .error fault, .all => return .error fault
  | .error fault, .allButLast =>
    match fs.reach (ByteText.decode path) with
    | .ok ⟨d, .name s _⟩ =>
      if fault = .notDirectory then return .error fault else return .ok (shown (d ++ [s]))
    | .ok ⟨d, _⟩ => return .ok (shown d)
    | .error fault => return .error fault
  | .error _, .none =>
    let start := if Path.isAbsolute path then [] else fs.current
    let step (l : Location) (part : String) : Location :=
      if part = "" || part = "." then l
      else if part = ".." then l.dropLast
      else
        match fs.entryAt? (l ++ [part]) with
        | some (.link path) =>
          match fs.reachFrom l path Files.linkLimit with
          | .ok ⟨d, .name s _⟩ => d ++ [s]
          | _ => l ++ [part]
        | _ => l ++ [part]
    return .ok (shown ((Path.parts (ByteText.decode path)).foldl step start))

/-- A path from the root without points and double slashes, whatever its parts are. -/
def plainWholePath (fs : Files) (path : String) : String :=
  let start := if Path.isAbsolute path then [] else fs.current
  let step (l : Location) (part : String) : Location :=
    if part = "" || part = "." then l else if part = ".." then l.dropLast else l ++ [part]
  ByteText.encode (pathOf ((Path.parts (ByteText.decode path)).foldl step start))

def printLinks (arguments : List String) : Program Unit := do
  let g ← givenTo (flags "femnqsvz" ++ [⟨'f', "canonicalize", false⟩,
    ⟨'e', "canonicalize-existing", false⟩, ⟨'m', "canonicalize-missing", false⟩,
    ⟨'n', "no-newline", false⟩, ⟨'v', "verbose", false⟩, ⟨'z', "zero", false⟩]) arguments
  if g.operands.isEmpty then Program.refuseUsage 1 "missing operand"
  let isBare := g.has 'n' && g.operands.length = 1
  if g.has 'n' && !isBare then
    Program.complain "ignoring --no-newline with multiple arguments"
  g.operands.forM fun path => do
    let kind : Option Presence :=
      if g.has 'e' then some .all else if g.has 'f' then some .allButLast
      else if g.has 'm' then some .none else none
    let result ← match kind with
      | some kind => resolvePath kind path
      | none => do
        match ← entryItself path with
        | .ok (_, .link target) => pure (.ok (ByteText.encode target))
        | .ok _ => pure (.error (.described "Invalid argument"))
        | .error fault => pure (.error fault)
    match result with
    | .ok text => Program.printText (text ++ (if isBare then "" else lineEnd g))
    | .error fault =>
      if g.has 'v' then Program.complain (plainPath path ++ ": " ++ faultWording fault)
      Program.setStatus 1

def printWholePaths (arguments : List String) : Program Unit := do
  let g ← givenTo (flags "eLmPqsz" ++ [⟨'s', "strip", false⟩, ⟨'s', "no-symlinks", false⟩,
    ⟨'e', "canonicalize-existing", false⟩, ⟨'m', "canonicalize-missing", false⟩,
    ⟨'q', "quiet", false⟩, ⟨'L', "logical", false⟩, ⟨'z', "zero", false⟩]) arguments
  if g.operands.isEmpty then Program.refuseUsage 1 "missing operand"
  let kind : Presence :=
    if g.has 'e' then .all else if g.has 'm' then .none else .allButLast
  g.operands.forM fun path => do
    let fs ← Program.files
    let result ←
      if g.has 's' then do
        let isThere := (fs.find (ByteText.decode path)).isOk
        match kind, isThere with
        | .none, _ => pure (.ok (plainWholePath fs path))
        | _, true => pure (.ok (plainWholePath fs path))
        | kind, false =>
          match ← resolvePath kind path with
          | .ok _ => pure (.ok (plainWholePath fs path))
          | .error fault => pure (.error fault)
      else if g.has 'L' then resolvePath kind (plainWholePath fs path)
      else resolvePath kind path
    match result with
    | .ok text => Program.printText (text ++ lineEnd g)
    | .error fault =>
      if g.has 'q' then Program.setStatus 1
      else Program.object (plainPath path ++ ": " ++ faultWording fault)

def printCurrent (_ : List String) : Program Unit := do
  Program.printText (ByteText.encode (pathOf (← Program.files).current) ++ "\n")

end FlashImage.Shell
