import FlashImage.Shell.Utility.Basic

/-!
Programs that copy, move and remove files and directories.

Several files go into a directory, each under its own name. A link to a file is a copy of it.
-/

set_option autoImplicit false
set_option relaxedAutoImplicit false

namespace FlashImage.Shell

def withoutSlashes (path : String) : String :=
  let kept := path.toList.reverse.dropWhile (· = '/')
  if kept.isEmpty then String.ofList (path.toList.take 1) else String.ofList kept.reverse

def lastName (path : String) : String :=
  let kept := (withoutSlashes path).toList
  if kept = ['/'] then "/" else String.ofList (kept.reverse.takeWhile (· ≠ '/')).reverse

/-- What a path leads to, with its location, if it leads to something. -/
def entryOf (path : String) : Program (Except FileFault (Location × Entry)) := Program.find path

def entryItself (path : String) : Program (Except FileFault (Location × Entry)) :=
  Program.findItself path

def changeWorld (f : World → World) : Program Unit := modify fun p => { p with world := f p.world }

/-- Where sources go. -/
inductive Destination
  | directory (path : String)
  | exact (path : String)

/-- Finds where sources go from the operands and the options for that. -/
def destinationOf (g : Given) (missing : String) : Program (List String × Destination) := do
  match g.value? 't', g.operands with
  | some path, operands =>
    if operands.isEmpty then Program.refuseUsage 1 missing
    match ← entryOf path with
    | .ok (_, .directory) => return (operands, .directory path)
    | .ok _ => Program.refuse ("target directory " ++ shownPath path ++ ": Not a directory")
    | .error fault =>
      Program.refuse ("target directory " ++ shownPath path ++ ": " ++ faultWording fault)
  | none, [] => Program.refuseUsage 1 missing
  | none, [one] =>
    Program.refuseUsage 1 ("missing destination file operand after " ++ shownPath one)
  | none, [source, dest] =>
    if !g.has 'T' && (← Program.isDirectory dest) then return ([source], .directory dest)
    else return ([source], .exact dest)
  | none, operands =>
    let dest := operands.getLastD ""
    if g.has 'T' then
      Program.refuseUsage 1 ("extra operand " ++ shownPath (operands.getD 2 ""))
    match ← entryOf dest with
    | .ok (_, .directory) => return (operands.dropLast, .directory dest)
    | .ok _ => Program.refuse ("target " ++ shownPath dest ++ ": Not a directory")
    | .error fault => Program.refuse ("target " ++ shownPath dest ++ ": " ++ faultWording fault)

def Destination.pathFor (d : Destination) (source : String) : String :=
  match d with
  | .directory path =>
    let name := lastName source
    if path.endsWith "/" then path ++ name else path ++ "/" ++ name
  | .exact path => path

def mayOverwrite (path : String) : Program Bool := do
  let name := (← get).speaker
  Program.printTo 2 (ByteText.toBytes (name ++ ": overwrite " ++ shownPath path ++ "? "))
  let b ← Program.peekInput
  let line := b.takeWhile (· ≠ 10)
  Program.consume (line.length + 1)
  return line.head? = some 121 || line.head? = some 89

def tellChange (g : Given) (text : String) : Program Unit := do
  if g.has 'v' then Program.printText (text ++ "\n")

def copyFile (source dest : String) (from1 : Location) (content : Bytes) : Program Unit := do
  let isNew := !(← entryOf dest).isOk
  match (← Program.files).write (ByteText.decode dest) content with
  | .error .isDirectory =>
    let fault : FileFault := if dest.endsWith "/" then .notDirectory else .isDirectory
    Program.object
      ("cannot create regular file " ++ shownPath dest ++ ": " ++ faultWording fault)
  | .error fault =>
    Program.object
      ("cannot create regular file " ++ shownPath dest ++ ": " ++ faultWording fault)
  | .ok fs =>
    Program.setFiles fs
    match ← entryOf dest with
    | .ok (l, _) =>
      changeWorld fun w =>
        let w := w.spread l
        if isNew then w.setMode l (w.mode from1) else w
    | .error _ => Program.object ("cannot stat " ++ shownPath source)

/-- Whether links are copied as links. Those that are named are followed if they may be. -/
def keepsLinks (g : Given) : Bool :=
  let recursive := g.has 'r' || g.has 'R' || g.has 'a'
  (g.has 'P' || g.has 'd' || g.has 'a' || recursive) && !g.has 'L'

def copyLink (g : Given) (source dest path : String) : Program Unit := do
  let cannot (fault : FileFault) : Program Unit :=
    Program.object
      ("cannot create symbolic link " ++ shownPath dest ++ ": " ++ faultWording fault)
  match ← entryItself dest with
  | .ok (_, .directory) =>
    Program.object ("cannot overwrite directory " ++ shownPath dest ++ " with non-directory")
  | found =>
    match found with
    | .ok (l, _) => changeWorld fun w => w.removeAll l
    | .error _ => pure ()
    match (← Program.files).target (ByteText.decode dest) with
    | .ok ⟨d, .name s false⟩ =>
      changeWorld fun w => { w with files := w.files.put (d ++ [s]) (.link path) }
      tellChange g (shownPath source ++ " -> " ++ shownPath dest)
    | .ok _ => cannot .notFound
    | .error fault => cannot fault

/-- Copies what a path leads to, down to a depth of directories in directories. -/
def copyTree (g : Given) (isTop : Bool) : (depth : Nat) → (source dest : String) → Program Unit
  | 0, _, _ => return ()
  | depth + 1, source, dest => do
    let recursive := g.has 'r' || g.has 'R' || g.has 'a'
    let keeps := keepsLinks g && !(isTop && g.has 'H')
    match ← if keeps then entryItself source else entryOf source with
    | .error fault =>
      Program.object ("cannot stat " ++ shownPath source ++ ": " ++ faultWording fault)
    | .ok (_, .link path) => copyLink g source dest path
    | .ok (from1, .directory) =>
      if !recursive then
        Program.object ("-r not specified; omitting directory " ++ shownPath source)
      else
        match ← entryOf dest with
        | .ok (_, .file _) =>
          Program.object ("cannot overwrite non-directory " ++ shownPath dest ++
            " with directory " ++ shownPath source)
        | found =>
          let names := ((← Program.files).list (ByteText.decode source)).toOption.getD []
          let made ←
            match found with
            | .ok _ => pure true
            | .error _ =>
              match (← Program.files).makeDirectory (ByteText.decode dest) with
              | .ok fs => do
                Program.setFiles fs
                tellChange g (shownPath source ++ " -> " ++ shownPath dest)
                pure true
              | .error fault => do
                Program.object
                  ("cannot create directory " ++ shownPath dest ++ ": " ++ faultWording fault)
                pure false
          if made then
            let to1 ← entryOf dest
            let inside := to1.toOption.any fun (l, _) => from1.isPrefixOf l
            if inside && isTop then
              Program.object ("cannot copy a directory, " ++ shownPath source ++
                ", into itself, " ++ shownPath dest)
            (names.map ByteText.encode).forM fun name => do
              let one := withoutSlashes source ++ "/" ++ name
              let isDest := match (← entryOf one), to1 with
                | .ok (l, _), .ok (m, _) => l.isPrefixOf m
                | _, _ => false
              if !isDest then copyTree g false depth one (withoutSlashes dest ++ "/" ++ name)
    | .ok (from1, entry) =>
      let content := match entry with
        | .file b => b
        | _ => []
      match ← entryOf dest with
      | .ok (_, .directory) =>
        Program.object ("cannot overwrite directory " ++ shownPath dest ++ " with non-directory")
      | .ok (to1, _) =>
        if ((← get).world.sharing from1).contains to1 then
          Program.object (shownPath source ++ " and " ++ shownPath dest ++ " are the same file")
        else if g.has 'n' || g.has 'u' then return ()
        else
          let mayGoOn ← if g.has 'i' then mayOverwrite dest else pure true
          if mayGoOn then
            copyFile source dest from1 content
            tellChange g (shownPath source ++ " -> " ++ shownPath dest)
          else Program.setStatus 1
      | .error .notDirectory =>
        Program.object ("cannot stat " ++ shownPath dest ++ ": Not a directory")
      | .error _ =>
        if (← entryItself dest).isOk then
          Program.object ("not writing through dangling symlink " ++ shownPath dest)
          return
        copyFile source dest from1 content
        tellChange g (shownPath source ++ " -> " ++ shownPath dest)

/-- Sources of which each one is there once. Those that are given again are warned of. -/
def withoutRepeated (sources : List String) : Program (List String) := do
  let kept ← sources.foldlM (fun (kept : List String) source => do
    if kept.contains source then
      let kind := if ← Program.isDirectory source then "directory" else "file"
      Program.complain
        ("warning: source " ++ kind ++ " " ++ shownPath source ++ " specified more than once")
      return kept
    else return source :: kept) []
  return kept.reverse

def treeDepth : Nat := 2048

def copyOptions : List OptionSpec :=
  flags "abdfHiLlnPpRrsTuvxZ" ++ settings "St" ++ [⟨'r', "recursive", false⟩,
    ⟨'f', "force", false⟩, ⟨'v', "verbose", false⟩, ⟨'n', "no-clobber", false⟩,
    ⟨'a', "archive", false⟩, ⟨'t', "target-directory", true⟩, ⟨'u', "update", false⟩,
    ⟨'T', "no-target-directory", false⟩, ⟨'p', "preserve", false⟩, ⟨'i', "interactive", false⟩]

def copyPaths (arguments : List String) : Program Unit := do
  let g ← givenTo copyOptions arguments
  if g.has 'n' then
    Program.complain ("warning: behavior of -n is non-portable and may change in future; " ++
      "use --update=none instead")
  let (sources, dest) ← destinationOf g "missing file operand"
  (← withoutRepeated sources).forM fun source =>
    copyTree g true treeDepth source (dest.pathFor source)

def movePath (g : Given) (source dest : String) : Program Unit := do
  let cannot (fault : FileFault) : Program Unit :=
    Program.object ("cannot move " ++ shownPath source ++ " to " ++ shownPath dest ++ ": " ++
      faultWording fault)
  let move (from1 to1 : Location) : Program Unit := do
    changeWorld fun w => w.moveTo from1 to1
    tellChange g ("renamed " ++ shownPath source ++ " -> " ++ shownPath dest)
  match ← entryItself source with
  | .error fault =>
    Program.object ("cannot stat " ++ shownPath source ++ ": " ++ faultWording fault)
  | .ok (from1, entry) =>
    let isDirectory := entry = .directory
    match ← entryItself dest with
    | .ok (to1, .directory) =>
      if !isDirectory then
        Program.object ("cannot overwrite directory " ++ shownPath dest ++ " with non-directory")
      else if from1.isPrefixOf to1 then
        Program.object ("cannot move " ++ shownPath source ++ " to a subdirectory of itself, " ++
          shownPath dest)
      else if !((← Program.files).children to1).isEmpty then
        Program.object ("cannot overwrite " ++ shownPath dest ++ ": Directory not empty")
      else move from1 to1
    | .ok (to1, _) =>
      if isDirectory then
        Program.object ("cannot overwrite non-directory " ++ shownPath dest ++ " with directory " ++
          shownPath source)
      else if ((← get).world.sharing from1).contains to1 then
        Program.object (shownPath source ++ " and " ++ shownPath dest ++ " are the same file")
      else if g.has 'n' then Program.object ("not replacing " ++ shownPath dest)
      else
        let mayGoOn ← if g.has 'i' then mayOverwrite dest else pure true
        if mayGoOn then move from1 to1 else Program.setStatus 1
    | .error _ =>
      match (← Program.files).target (ByteText.decode dest) with
      | .error .notFound =>
        if dest.isEmpty && !isDirectory then
          Program.object "cannot overwrite directory '' with non-directory"
        else cannot .notFound
      | .error fault => cannot fault
      | .ok ⟨directory, .name name slash⟩ =>
        if slash && !isDirectory then cannot .notDirectory
        else
          match (← Program.files).inDirectory directory name with
          | .error fault => cannot fault
          | .ok (to1, _) =>
            if isDirectory && from1.isPrefixOf to1 then
              Program.object ("cannot move " ++ shownPath source ++
                " to a subdirectory of itself, " ++ shownPath dest)
            else move from1 to1
      | .ok _ => cannot .notFound

def movePaths (arguments : List String) : Program Unit := do
  let g ← givenTo copyOptions arguments
  let (sources, dest) ← destinationOf g "missing file operand"
  (← withoutRepeated sources).forM fun source => movePath g source (dest.pathFor source)

/-- Removes what a path leads to, down to a depth of directories in directories. -/
def removeTree (g : Given) : (depth : Nat) → (path : String) → Program Unit
  | 0, _ => return ()
  | depth + 1, path => do
    let recursive := g.has 'r' || g.has 'R'
    let cannot (wording : String) : Program Unit :=
      Program.object ("cannot remove " ++ shownPath path ++ ": " ++ wording)
    let isThroughLink := path.endsWith "/" &&
      match ← entryItself (withoutSlashes path) with
      | .ok (_, .link _) => true
      | _ => false
    if isThroughLink && recursive then return ← cannot "Not a directory"
    match ← entryItself path with
    | .error fault =>
      let passes := g.has 'f' && (fault = .notFound || fault = .notDirectory)
      if !passes then cannot (faultWording fault)
    | .ok (l, .directory) =>
      let children := ((← Program.files).list (ByteText.decode path)).toOption.getD []
      if recursive then
        (children.map ByteText.encode).forM fun name =>
          removeTree g depth (withoutSlashes path ++ "/" ++ name)
        changeWorld fun w => w.removeAll l
        tellChange g ("removed directory " ++ shownPath path)
      else if g.has 'd' then
        if children.isEmpty then
          changeWorld fun w => w.removeAll l
          tellChange g ("removed directory " ++ shownPath path)
        else cannot "Directory not empty"
      else cannot "Is a directory"
    | .ok (_, .null) => return ()
    | .ok (l, entry) =>
      if g.has 'i' then
        let name := (← get).speaker
        let kind := match entry with
          | .file [] => "regular empty file "
          | .file _ => "regular file "
          | _ => "symbolic link "
        let question := ": remove " ++ kind ++ shownPath path ++ "? "
        Program.printTo 2 (ByteText.toBytes (name ++ question))
        let line := (← Program.peekInput).takeWhile (· ≠ 10)
        Program.consume (line.length + 1)
        if line.head? ≠ some 121 && line.head? ≠ some 89 then return
      changeWorld fun w => w.removeAll l
      tellChange g ("removed " ++ shownPath path)

def removePaths (arguments : List String) : Program Unit := do
  let g ← givenTo (flags "dfIiRrv" ++ [⟨'r', "recursive", false⟩,
    ⟨'f', "force", false⟩, ⟨'d', "dir", false⟩, ⟨'v', "verbose", false⟩]) arguments
  if g.operands.isEmpty && !g.has 'f' then Program.refuseUsage 1 "missing operand"
  g.operands.forM fun path => do
    let name := lastName path
    let recursive := g.has 'r' || g.has 'R'
    if recursive && (name = "." || name = "..") then
      Program.object ("refusing to remove '.' or '..' directory: skipping " ++ shownPath path)
    else if recursive && name = "/" then
      Program.object "it is dangerous to operate recursively on '/'"
      Program.complain "use --no-preserve-root to override this failsafe"
    else removeTree g treeDepth path

def removeSingle (arguments : List String) : Program Unit := do
  let g ← givenTo [] arguments
  match g.operands with
  | [] => Program.refuseUsage 1 "missing operand"
  | [path] =>
    match ← entryItself path with
    | .ok (_, .directory) =>
      Program.refuse ("cannot unlink " ++ shownPath path ++ ": Is a directory")
    | .ok (l, _) => changeWorld fun w => w.removeAll l
    | .error fault =>
      Program.refuse ("cannot unlink " ++ shownPath path ++ ": " ++ faultWording fault)
  | _ :: extra :: _ => Program.refuseUsage 1 ("extra operand " ++ shownPath extra)

def pathBetween (directory l : Location) : String :=
  let common := ((directory.zip l).takeWhile fun (a, b) => a = b).length
  let up := List.replicate (directory.length - common) ".."
  "/".intercalate (up ++ (l.drop common).map ByteText.encode)

def makeLink (g : Given) (dest : String) (start : String) (change : Location → World → World) :
    Program Bool := do
  let refuse (wording : String) : Program Bool := do
    Program.object (start ++ ": " ++ wording)
    return false
  match ← entryItself dest with
  | .ok (_, .directory) =>
    if g.has 'f' then
      Program.object (shownPath dest ++ ": cannot overwrite directory")
      return false
    else refuse "File exists"
  | .ok (l, _) =>
    if !g.has 'f' then refuse "File exists"
    else
      changeWorld fun w => change l (w.removeAll l)
      return true
  | .error _ =>
    match (← Program.files).target (ByteText.decode dest) with
    | .ok ⟨d, .name s false⟩ =>
      changeWorld (change (d ++ [s]))
      return true
    | .ok _ => refuse "No such file or directory"
    | .error fault => refuse (faultWording fault)

def linkPath (g : Given) (source dest : String) : Program Unit := do
  let made ←
    if g.has 's' then do
      let start := "failed to create symbolic link " ++ shownPath dest
      let text ←
        if g.has 'r' then
          match (← Program.files).reach (ByteText.decode source),
              (← Program.files).target (ByteText.decode dest) with
          | .ok ⟨d, .name s _⟩, .ok ⟨e, _⟩ => pure (pathBetween e (d ++ [s]))
          | .ok ⟨d, _⟩, .ok ⟨e, _⟩ => pure (pathBetween e d)
          | _, _ => pure source
        else pure source
      if text.isEmpty then
        Program.object (start ++ " -> '': No such file or directory")
        pure false
      else
        let link : Entry := .link (ByteText.decode text)
        makeLink g dest start fun l w => { w with files := w.files.put l link }
    else
      match ← if g.has 'L' then entryOf source else entryItself source with
      | .error fault => do
        Program.object ("failed to access " ++ shownPath source ++ ": " ++ faultWording fault)
        pure false
      | .ok (_, .directory) => do
        Program.object (source ++ ": hard link not allowed for directory")
        pure false
      | .ok (from1, entry) =>
        let there := match ← entryItself dest with
          | .ok (l, _) => some l
          | .error _ => none
        if g.has 'f' && there = some from1 then
          Program.object (shownPath source ++ " and " ++ shownPath dest ++ " are the same file")
          pure false
        else
          let start := "failed to create hard link " ++ shownPath dest
          let start := if there.isSome then start else start ++ " => " ++ shownPath source
          makeLink g dest start fun l w =>
            let mode := w.mode from1
            let w := { w with files := w.files.put l entry }
            match entry with
            | .file _ => (w.share from1 l).setMode from1 mode
            | _ => w
  if made && g.has 'v' then
    let sign := if g.has 's' then " -> " else " => "
    Program.printText (shownPath dest ++ sign ++ shownPath source ++ "\n")

def linkSingle (arguments : List String) : Program Unit := do
  let g ← givenTo [] arguments
  match g.operands with
  | [] => Program.refuseUsage 1 "missing operand"
  | [one] => Program.refuseUsage 1 ("missing operand after " ++ shownPath one)
  | [source, dest] =>
    let cannot (wording : String) : Program Unit :=
      Program.refuse ("cannot create link " ++ shownPath dest ++ " to " ++ shownPath source ++ ": " ++
        wording)
    match ← entryItself source, ← entryItself dest, (← Program.files).target (ByteText.decode dest) with
    | .error fault, _, _ => cannot (faultWording fault)
    | .ok _, .ok _, _ => cannot "File exists"
    | .ok (_, .directory), _, _ => cannot "Operation not permitted"
    | .ok (from1, entry), _, .ok ⟨d, .name s false⟩ =>
      changeWorld fun w =>
        let l := d ++ [s]
        let mode := w.mode from1
        let w := { w with files := w.files.put l entry }
        match entry with
        | .file _ => (w.share from1 l).setMode from1 mode
        | _ => w
    | _, _, .ok _ => cannot "No such file or directory"
    | _, _, .error fault => cannot (faultWording fault)
  | _ :: _ :: extra :: _ => Program.refuseUsage 1 ("extra operand " ++ shownPath extra)

def linkPaths (arguments : List String) : Program Unit := do
  let g ← givenTo (flags "bdFfiLnPrsTv" ++ settings "St" ++ [⟨'s', "symbolic", false⟩,
    ⟨'f', "force", false⟩, ⟨'v', "verbose", false⟩, ⟨'r', "relative", false⟩,
    ⟨'n', "no-dereference", false⟩, ⟨'T', "no-target-directory", false⟩,
    ⟨'t', "target-directory", true⟩, ⟨'L', "logical", false⟩, ⟨'P', "physical", false⟩]) arguments
  match g.value? 't', g.operands with
  | none, [one] => linkPath g one ("./" ++ lastName one)
  | none, [source, dest] =>
    let isLink := match ← entryItself dest with
      | .ok (_, .link _) => true
      | _ => false
    let isInside := !g.has 'T' && !(g.has 'n' && isLink) && (← Program.isDirectory dest)
    let place : Destination := if isInside then .directory dest else .exact dest
    linkPath g source (place.pathFor source)
  | _, _ =>
    let (sources, dest) ← destinationOf g "missing file operand"
    sources.forM fun source => linkPath g source (dest.pathFor source)

end FlashImage.Shell
