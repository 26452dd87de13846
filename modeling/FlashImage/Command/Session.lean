import FlashImage.Workspace

/-!
The steps of a command, and what can stop one.
-/

set_option autoImplicit false
set_option relaxedAutoImplicit false

namespace FlashImage

inductive CommandFault
  | build (e : Error)
  /-- No directory holds a board of that name. -/
  | boardNotFound (name : String) (searched : List String)
  | noPadByte
  /-- The directory for a single container cannot be made. -/
  | outputDirectory (fault : FileFault)
  /-- A line cannot be printed. -/
  | output (fault : FileFault)
  deriving DecidableEq, Repr

def CommandFault.message : CommandFault → String
  | .build e => e.message
  | .boardNotFound name searched =>
    "board '" ++ name ++ "' not found (searched: " ++ String.intercalate ", " searched ++ ")"
  | .noPadByte => "no pad byte: pass --pad-byte or set layout.pad_byte"
  | .outputDirectory fault => fault.message
  | .output fault => "failed printing to stdout: " ++ fault.message

/-- Standard output cannot be written. -/
def CommandFault.OfOutput (fault : CommandFault) : Prop := ∃ f, fault = .output f

abbrev Session (α : Type) := ExceptT CommandFault (StateM Workspace) α

namespace Session

def ofBuild {α : Type} (step : Build α) : Session α := fun w =>
  match step w with
  | (.ok a, w) => (.ok a, w)
  | (.error e, w) => (.error (.build e), w)

def printLine (s : String) : Session Unit := fun w =>
  let line := Bytes.ofText (s ++ "\n")
  match w.files.ask (.print w.printed line) with
  | .ok () => (.ok (), { w with printed := w.printed ++ line })
  | .error fault => (.error (.output fault), w)

def printLines (lines : List String) : Session Unit := lines.forM printLine

def ofExcept {α : Type} (r : Except Error α) : Session α := ofBuild (Build.ofExcept r)

def files : Session Files := ofBuild Build.files

/-- Makes a directory, and first those that lead to it. A fault is reported without the path. -/
def makeDirectories (path : String) : Session Unit := do
  let (result, fs) := (← files).makeDirectories path
  ofBuild (Build.setFiles fs)
  match result with
  | .ok () => return ()
  | .error fault => throw (.outputDirectory fault)

end Session
end FlashImage
