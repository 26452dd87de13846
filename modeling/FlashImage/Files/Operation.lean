import FlashImage.Files.Walk

/-!
What can be done with files: asking, reading, writing, making and taking away.

An operation that changes files gives the files after it. One that fails changes nothing, but for
`makeDirectories`, which leaves the directories that it has made. The machine is asked for what is
made, written and moved.
-/

set_option autoImplicit false
set_option relaxedAutoImplicit false

namespace FlashImage.Files

def isFile (fs : Files) (path : String) : Bool :=
  match fs.find path with
  | .ok (_, .file _) => true
  | _ => false

def isDirectory (fs : Files) (path : String) : Bool :=
  match fs.find path with
  | .ok (_, .directory) => true
  | _ => false

/-- The content of a file. The null device has none. -/
def read (fs : Files) (path : String) : Except FileFault Bytes :=
  match fs.find path with
  | .error fault => .error fault
  | .ok (_, .directory) => .error .isDirectory
  | .ok (_, .file content) => .ok content
  | .ok (_, _) => .ok []

def readText (fs : Files) (path : String) : Except FileFault String :=
  match fs.read path with
  | .error fault => .error fault
  | .ok content =>
    match Bytes.toText? content with
    | some s => .ok s
    | none => .error .notText

def list (fs : Files) (path : String) : Except FileFault (List String) :=
  match fs.find path with
  | .error fault => .error fault
  | .ok (l, .directory) =>
    .ok (((fs.children l).map (·.1)).mergeSort fun a b => decide (a ≤ b))
  | .ok _ => .error .notDirectory

/-- Writes a regular file, in place of one that is there. A path that ends in a slash or in dots can
only be one of a directory. -/
def write (fs : Files) (path : String) (content : Bytes) : Except FileFault Files :=
  match fs.reach path with
  | .error fault => .error fault
  | .ok ⟨directory, .name s false⟩ =>
    match fs.inDirectory directory s with
    | .error fault => .error fault
    | .ok (_, some .directory) => .error .isDirectory
    | .ok (_, some .null) => .ok fs
    | .ok (l, _) =>
      match fs.ask (.write l content) with
      | .error fault => .error fault
      | .ok () => .ok (fs.put l (.file content))
  | .ok _ => .error .isDirectory

def removeFile (fs : Files) (path : String) : Except FileFault Files :=
  match fs.findItself path with
  | .error fault => .error fault
  | .ok (_, .directory) => .error .isDirectory
  | .ok (l, _) => .ok (fs.remove l)

def makeDirectory (fs : Files) (path : String) : Except FileFault Files :=
  match fs.target path with
  | .error fault => .error fault
  | .ok ⟨directory, .name s _⟩ =>
    match fs.inDirectory directory s with
    | .error fault => .error fault
    | .ok (_, some _) => .error .alreadyExists
    | .ok (l, none) =>
      match fs.ask (.makeDirectory l) with
      | .error fault => .error fault
      | .ok () => .ok (fs.put l .directory)
  | .ok _ => .error .alreadyExists

def makeDirectoriesTo (fs : Files) (path : List Char) : Except FileFault Unit × Files :=
  if path.isEmpty then (.ok (), fs)
  else
    let text := String.ofList path.reverse
    match fs.makeDirectory text with
    | .ok fs => (.ok (), fs)
    | .error .notFound =>
      match h : Path.reverseParent? path with
      | none => (.error (.described "failed to create whole tree"), fs)
      | some parent =>
        have := Path.length_reverseParent?_lt h
        match fs.makeDirectoriesTo parent with
        | (.error fault, fs) => (.error fault, fs)
        | (.ok (), fs) =>
          match fs.makeDirectory text with
          | .ok fs => (.ok (), fs)
          | .error fault => (if fs.isDirectory text then .ok () else .error fault, fs)
    | .error fault => (if fs.isDirectory text then .ok () else .error fault, fs)
termination_by path.length

def makeDirectories (fs : Files) (path : String) : Except FileFault Unit × Files :=
  fs.makeDirectoriesTo path.toList.reverse

/-- The path from the root at which a file is prepared in a directory. -/
def preparedPath (fs : Files) (directory : String) : String :=
  Path.join (Path.join (pathOf fs.current) directory) (fs.machine.temporaryName fs.entries)

/-- Makes an empty file with a new name in a directory. With the files comes where it is. -/
def createTemporary (fs : Files) (directory : String) : Except FileFault (Location × Files) :=
  match fs.find (Path.join directory ".") with
  | .error .nulInPath => .error .nulInPath
  | found =>
    if pathLimit ≤ (fs.preparedPath directory).utf8ByteSize then .error .nameTooLong
    else
      match found with
      | .error fault => .error fault
      | .ok (d, _) =>
        match fs.inDirectory d (fs.machine.temporaryName fs.entries) with
        | .error fault => .error fault
        | .ok (_, some _) => .error .alreadyExists
        | .ok (l, none) =>
          match fs.ask (.create l) with
          | .error fault => .error fault
          | .ok () => .ok (l, fs.put l (.file []))

/-- The directory in which a file is prepared that is to replace what a path leads to. -/
def preparation (path : String) : String :=
  match Path.parent? path with
  | none => "."
  | some "" => "."
  | some directory => directory

/-- Moves what is at a location to the place of a path, and over what is there. A directory stays,
and one that is named by dots is in use. -/
def move (fs : Files) (source : Location) (path : String) : Except FileFault Files :=
  match fs.target path with
  | .error fault => .error fault
  | .ok ⟨directory, .name s slash⟩ =>
    match fs.inDirectory directory s with
    | .error fault => .error fault
    | .ok (l, entry) =>
      if slash then .error .notDirectory
      else if entry = some .directory then .error .isDirectory
      else
        match fs.entryAt? source, fs.ask (.rename source l) with
        | none, _ => .error .notFound
        | some _, .error fault => .error fault
        | some e, .ok () => .ok ((fs.remove source).put l e)
  | .ok _ => .error .busy

/-- Gives the file at a location its content, and moves it to the place of a path once that is on
the disk. A failure names the path of the file, as it is given, until it is moved. -/
def fillAndMove (fs : Files) (source : Location) (sourcePath path : String) (content : Bytes) :
    Except (String × FileFault) Files :=
  match fs.ask (.fill source content) with
  | .error fault => .error (sourcePath, fault)
  | .ok () =>
    let filled := fs.put source (.file content)
    match filled.ask (.sync source), filled.move source path with
    | .error fault, _ => .error (sourcePath, fault)
    | .ok (), .error fault => .error (path, fault)
    | .ok (), .ok fs => .ok fs

/-- Replaces a file so that it never holds a part of the new content only: a new file is prepared
beside it and moved to its place. If that fails, the new file is taken away, with whatever part of
the content it has got. A failure names the directory if no file could be made in it. -/
def writeWhole (fs : Files) (path : String) (content : Bytes) :
    Except (String × FileFault) Unit × Files :=
  let directory := preparation path
  match fs.createTemporary directory with
  | .error fault => (.error (directory, fault), fs)
  | .ok (source, made) =>
    match made.fillAndMove source (fs.preparedPath directory) path content with
    | .error failure => (.error failure, made.remove source)
    | .ok fs => (.ok (), fs)

end FlashImage.Files
