import FlashImage.Error
import FlashImage.Files.Operation

/-!
Where artifacts are found: first among the blobs in memory, then in directories in order.
-/

set_option autoImplicit false
set_option relaxedAutoImplicit false

namespace FlashImage

/-- Blobs by name, and the directories that are searched for other artifacts. -/
structure ArtifactStore where
  blobs : List (String × Bytes)
  directories : List String
  deriving DecidableEq, Repr

namespace ArtifactStore

def ofDirectories (directories : List String) : ArtifactStore := ⟨[], directories⟩

def insert (s : ArtifactStore) (name : String) (data : Bytes) : ArtifactStore :=
  { s with blobs := (name, data) :: s.blobs.filter (·.1 ≠ name) }

def addDirectory (s : ArtifactStore) (directory : String) : ArtifactStore :=
  { s with directories := s.directories ++ [directory] }

def blob? (s : ArtifactStore) (name : String) : Option Bytes := s.blobs.lookup name

def candidates (s : ArtifactStore) (name : String) : List String :=
  s.directories.map (Path.join · name)

/-- The file of an artifact, whether or not there is a blob of the same name. -/
def locate (s : ArtifactStore) (fs : Files) (name : String) : Option String :=
  (s.candidates name).find? fs.isFile

def contains (s : ArtifactStore) (fs : Files) (name : String) : Bool :=
  (s.blob? name).isSome || (s.locate fs name).isSome

/-- The content of the first of some paths that is there. -/
def loadFirst (fs : Files) : List String → Except Error (Option Bytes)
  | [] => .ok none
  | path :: rest =>
    match fs.read path with
    | .ok data => .ok (some data)
    | .error .notFound => loadFirst fs rest
    | .error fault => .error (.file path fault)

def load (s : ArtifactStore) (fs : Files) (name : String) : Except Error (Option Bytes) :=
  match s.blob? name with
  | some data => .ok (some data)
  | none => loadFirst fs (s.candidates name)

end ArtifactStore
end FlashImage
