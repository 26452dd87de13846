import FlashImage.Files.Fault
import FlashImage.Shell.World

/-!
Processes: what a program has of its own while it runs, and what it can do.

A program ends early by its exit, and else with the status that has been set last. What it says
about its failures goes to the descriptor for complaints, with the name of the speaker in front.
-/

set_option autoImplicit false
set_option relaxedAutoImplicit false

namespace FlashImage.Shell

def decimal? (s : String) : Option Nat :=
  let digits := s.toList
  if digits.isEmpty || !digits.all Char.isDigit then none
  else some (digits.foldl (fun n d => n * 10 + (d.toNat - '0'.toNat)) 0)

/-- A process, with what it shares with others. -/
structure Process where
  world : World
  /-- The open files behind the descriptors. -/
  descriptors : List (Nat × Nat)
  environment : List (String × String)
  number : Nat
  parent : Nat
  /-- The signals that are ignored. -/
  ignored : List Nat
  /-- The name in front of complaints. -/
  speaker : String
  status : Nat

abbrev Program (α : Type) := ExceptT Exit (StateM Process) α

/-- How a file is opened. -/
inductive OpenMode
  | read
  /-- Empties the file. -/
  | write
  | append
  /-- Leaves the content as it is. -/
  | update
  deriving DecidableEq, Repr

/-- A file that is no entry of a directory. -/
inductive Device
  | descriptor (n : Nat)
  | endpoint (e : Endpoint)
  deriving DecidableEq, Repr

def device? (path : String) : Option Device :=
  match path with
  | "/dev/stdin" => some (.descriptor 0)
  | "/dev/stdout" => some (.descriptor 1)
  | "/dev/stderr" => some (.descriptor 2)
  | "/dev/zero" => some (.endpoint .zeros)
  | "/dev/urandom" => some (.endpoint .zeros)
  | "/dev/random" => some (.endpoint .zeros)
  | "/dev/full" => some (.endpoint .full)
  | path =>
    let digits := (path.toList.reverse.takeWhile Char.isDigit).reverse
    let directory := String.ofList (path.toList.take (path.length - digits.length))
    if directory = "/dev/fd/" || directory = "/proc/self/fd/" then
      (decimal? (String.ofList digits)).map .descriptor
    else none

def faultWording (fault : FileFault) : String :=
  match fault with
  | .described wording => wording
  | fault => (fault.system?.map (·.2)).getD "Invalid argument"

namespace Process

def openEntry (w : World) (path : String) (mode : OpenMode) : Except FileFault (Nat × World) := do
  let path := ByteText.decode path
  let opened (fs : Files) (appends reads writes : Bool) : Except FileFault (Nat × World) := do
    let w := { w with files := fs }
    match ← fs.find path with
    | (l, .file _) => .ok ((w.spread l).add ⟨.file l, 0, appends, reads, writes⟩)
    | (_, .null) => .ok (w.add ⟨.null, 0, appends, reads, writes⟩)
    | (_, .directory) => .ok (w.add ⟨.directory, 0, appends, reads, writes⟩)
    | (_, .link _) => .error .notFound
  match mode with
  | .read => opened w.files false true false
  | .write => opened (← w.files.write path []) false false true
  | _ =>
    let content := (w.files.read path).toOption.getD []
    let fs ← w.files.write path content
    opened fs (mode = .append) (mode = .update) true

/-- Opens what a path leads to. The result has the number of the open file. -/
def openPath (p : Process) (path : String) (mode : OpenMode) : Except FileFault (Nat × World) :=
  match device? path with
  | some (.descriptor n) =>
    match p.descriptors.lookup n with
    | some id => .ok (id, p.world)
    | none => .error .notFound
  | some (.endpoint e) => .ok (p.world.add ⟨e, 0, false, true, true⟩)
  | none => openEntry p.world path mode

end Process

namespace Program

def finish {α : Type} (status : Nat) : Program α := throw (.status status)

def setStatus (n : Nat) : Program Unit := modify fun p => { p with status := n }

def complain (wording : String) : Program Unit := modify fun p =>
  let b := ByteText.toBytes (p.speaker ++ ": " ++ wording ++ "\n")
  match p.descriptors.lookup 2 with
  | some id =>
    match p.world.write id b with
    | .ok w => { p with world := w }
    | .error _ => p
  | none => p

/-- Says something about a failure, and ends with the status of one. -/
def refuse {α : Type} (wording : String) : Program α := do
  complain wording
  finish 1

def object (wording : String) : Program Unit := do
  complain wording
  setStatus 1

def pipeSignal : Nat := 13

def printTo (descriptor : Nat) (b : Bytes) : Program Unit := do
  let p ← get
  match p.world.write ((p.descriptors.lookup descriptor).getD p.world.opened.size) b with
  | .ok w => set { p with world := w }
  | .error .brokenPipe => throw (.signal pipeSignal)
  | .error fault => refuse ("write error: " ++ fault.message)

def print (b : Bytes) : Program Unit := printTo 1 b

def printText (s : String) : Program Unit := print (ByteText.toBytes s)

def peekInput : Program Bytes := do
  let p ← get
  return match p.descriptors.lookup 0 with
    | some id => p.world.unread id
    | none => []

def consume (count : Nat) : Program Unit := modify fun p =>
  match p.descriptors.lookup 0 with
  | some id => { p with world := p.world.advance id count }
  | none => p

def inputEndpoint : Program (Option Endpoint) := do
  let p ← get
  return ((p.descriptors.lookup 0).bind fun id => p.world.opened[id]?).map (·.endpoint)

def takeInput : Program Bytes := do
  let b ← peekInput
  consume b.length
  return b

def files : Program Files := do return (← get).world.files

def setFiles (fs : Files) : Program Unit := modify fun p =>
  { p with world := { p.world with files := fs } }

/-- Opens what a path leads to. The result is the number of the open file. -/
def openPath (path : String) (mode : OpenMode) : Program (Except FileFault Nat) := do
  let p ← get
  match p.openPath path mode with
  | .ok (id, w) =>
    set { p with world := w }
    return .ok id
  | .error fault => return .error fault

def readPath (path : String) : Program (Except FileFault Bytes) := do
  match ← openPath path .read with
  | .error fault => return .error fault
  | .ok id =>
    let w := (← get).world
    let b := w.unread id
    let endpoint := (w.opened[id]?).map OpenFile.endpoint
    if endpoint = some .directory then return .error .isDirectory
    modify fun p => { p with world := p.world.advance id b.length }
    return .ok b

def writePath (path : String) (mode : OpenMode) (b : Bytes) : Program (Except FileFault Unit) := do
  match ← openPath path mode with
  | .error fault => return .error fault
  | .ok id =>
    let p ← get
    match p.world.write id b with
    | .ok w =>
      set { p with world := w }
      return .ok ()
    | .error _ => return .error (.described "No space left on device")

def find (path : String) : Program (Except FileFault (Location × Entry)) := do
  return (← files).find (ByteText.decode path)

def findItself (path : String) : Program (Except FileFault (Location × Entry)) := do
  return (← files).findItself (ByteText.decode path)

def isDirectory (path : String) : Program Bool := do
  return (← files).isDirectory (ByteText.decode path)

def run (step : Program Unit) (p : Process) : Exit × Process :=
  match step p with
  | (.ok (), p) => (.status p.status, p)
  | (.error exit, p) => (exit, p)

end Program

end FlashImage.Shell
