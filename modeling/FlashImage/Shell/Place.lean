import FlashImage.Shell.World

/-!
Where programs are: in files that may be executed, and in the directories of the system.

A program without slashes in its name is looked for in the directories of a search path.
-/

set_option autoImplicit false
set_option relaxedAutoImplicit false

namespace FlashImage.Shell

def programDirectories : List String := ["/usr/bin/", "/bin/"]

/-- The directories that programs are looked for in, unless others are given. -/
def defaultPath : String :=
  "/usr/local/sbin:/usr/local/bin:/usr/sbin:/usr/bin:/sbin:/bin"

def World.programAt? (w : World) (path : String) : Option String :=
  let name? := (programDirectories.find? (path.startsWith ·)).map fun d =>
    String.ofList (path.toList.drop d.length)
  name?.filter w.programs.contains

/-- What is at the path of a program: a file with its content, or a program of the system with its
name. -/
def startable (w : World) (path : String) : Except FileFault (Bytes ⊕ String) :=
  match w.files.find (ByteText.decode path) with
  | .ok (l, .file content) => if w.mayExecute l then .ok (.inl content) else .error .notPermitted
  | .ok _ => .error .notPermitted
  | .error .notFound =>
    match w.programAt? path with
    | some name => .ok (.inr name)
    | none => .error .notFound
  | .error fault => .error fault

def candidates (searchPath name : String) : List String :=
  (searchPath.splitOn ":").map fun d => if d.isEmpty then name else Path.join d name

/-- The fault of a search in which something that may not be executed counts more than nothing. -/
def searchFault (faults : List FileFault) : FileFault :=
  if faults.contains .notPermitted then .notPermitted else .notFound

def findPath (w : World) (searchPath name : String) : Except FileFault String :=
  if name.toList.contains '/' then (startable w name).map fun _ => name
  else if name.isEmpty then .error .notFound
  else if Files.nameLimit < name.length then .error .nameTooLong
  else
    let paths := candidates searchPath name
    match paths.find? fun path => (startable w path).isOk with
    | some path => .ok path
    | none => .error (searchFault (paths.filterMap fun path => fault? (startable w path)))
where
  fault? : Except FileFault (Bytes ⊕ String) → Option FileFault
    | .ok _ => none
    | .error fault => some fault

end FlashImage.Shell
