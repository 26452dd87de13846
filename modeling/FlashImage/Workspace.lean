import FlashImage.Error
import FlashImage.Files.Operation

/-!
The workspace of a build: the files, and the record of what has been done to the outside.

A step of a build changes the workspace whether it succeeds or fails.
-/

set_option autoImplicit false
set_option relaxedAutoImplicit false

namespace FlashImage

/-- Something that a build has done. -/
inductive Event
  /-- Data of some length has been given to the compressor. -/
  | compression (codec : Codec) (length : Nat)
  /-- An external program has been started in a directory. -/
  | toolRun (program : String) (arguments : List String) (directory : String)
  /-- The containers of a layout are about to be built, so many of them. -/
  | started (containers : Nat)
  /-- A container is done and has so many bytes. -/
  | containerDone (name : String) (length : Nat)
  /-- All containers are done. -/
  | finished
  deriving DecidableEq, Repr

/-- The files, and what has been done to the outside. -/
structure Workspace where
  files : Files
  /-- The directory for scratch files. -/
  scratch : String
  /-- The events so far, the last one first. -/
  events : List Event
  /-- What has been printed. -/
  printed : Bytes
  /-- What external programs have printed about their failures. -/
  complaints : Bytes

/-- A step of a build. -/
abbrev Build (α : Type) := ExceptT Error (StateM Workspace) α

namespace Build

def record (e : Event) : Build Unit := modify fun w => { w with events := e :: w.events }

def files : Build Files := do return (← get).files

def setFiles (fs : Files) : Build Unit := modify fun w => { w with files := fs }

/-- The result of looking at the files, where a fault is one of a path. -/
def look {α : Type} (path : String) (f : Files → Except FileFault α) : Build α := do
  match f (← files) with
  | .ok a => return a
  | .error fault => throw (.file path fault)

def change (path : String) (f : Files → Except FileFault Files) : Build Unit := do
  setFiles (← look path f)

def makeDirectories (path : String) : Build Unit := do
  let (result, fs) := (← files).makeDirectories path
  setFiles fs
  match result with
  | .ok () => return ()
  | .error fault => throw (.file path fault)

/-- Replaces a file so that it never holds a part of the new content only. -/
def writeWhole (path : String) (content : Bytes) : Build Unit := do
  let (result, fs) := (← files).writeWhole path content
  setFiles fs
  match result with
  | .ok () => return ()
  | .error (origin, fault) => throw (.file origin fault)

def ofExcept {α : Type} : Except Error α → Build α
  | .ok a => return a
  | .error e => throw e

/-- Takes a step and, whatever its result is, changes the files once more. -/
def ensuring {α : Type} (last : Files → Files) (step : Build α) : Build α := fun w =>
  let (result, w) := step w
  (result, { w with files := last w.files })

end Build

/-- Runs an external program with arguments in a directory. -/
abbrev ToolRunner := (program : String) → (arguments : List String) → (directory : String) →
  Build Unit

/-- Compresses data with a codec. -/
abbrev Compressor := Codec → Bytes → Build Bytes

end FlashImage
