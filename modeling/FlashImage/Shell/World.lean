import FlashImage.Files.System
import FlashImage.Shell.ByteText

/-!
What the processes of a script share: the files, what is open, and what has been printed.

A descriptor of a process is a number for an open file. Processes that share an open file go on
reading or writing where the other has stopped.
-/

set_option autoImplicit false
set_option relaxedAutoImplicit false

namespace FlashImage.Shell

/-- How a program ends. -/
inductive Exit
  | status (n : Nat)
  | signal (number : Nat)
  deriving DecidableEq, Repr

def Exit.code : Exit → Nat
  | .status n => n
  | .signal n => 128 + n

/-- What an open file reads from and writes to. -/
inductive Endpoint
  | file (l : Location)
  /-- Can be neither read nor written. -/
  | directory
  /-- Is empty, and swallows what is written to it. -/
  | null
  /-- Has zeros without end. -/
  | zeros
  /-- Has zeros without end, and no space. -/
  | full
  | pipe (number : Nat)
  /-- What the tool prints. -/
  | printed
  /-- What the tool prints about its failures. -/
  | complaints
  deriving DecidableEq, Repr

/-- An open file, and how far it has been read or written. -/
structure OpenFile where
  endpoint : Endpoint
  position : Nat
  /-- Whether each write goes to the end of the file. -/
  appends : Bool
  reads : Bool
  writes : Bool
  deriving DecidableEq, Repr

/-- A signal to a process. -/
structure SentSignal where
  process : Nat
  number : Nat
  deriving DecidableEq, Repr

/-- What has been written to a pipe, the last part first. -/
structure Pipe where
  parts : List Bytes
  size : Nat
  deriving DecidableEq, Repr

namespace Pipe

def empty : Pipe := ⟨[], 0⟩

def ofBytes (b : Bytes) : Pipe := ⟨[b], b.length⟩

def content (p : Pipe) : Bytes := p.parts.reverse.flatten

def write (p : Pipe) (b : Bytes) : Pipe := ⟨b :: p.parts, p.size + b.length⟩

theorem content_write (p : Pipe) (b : Bytes) : (p.write b).content = p.content ++ b := by
  simp [content, write]

end Pipe

/-- What the processes of a script share. -/
structure World where
  files : Files
  /-- The names of the programs of the system. -/
  programs : List String
  /-- The permissions of files that do not have the common ones. -/
  modes : List (Location × Nat)
  /-- The locations at which one file is, where there are several of them. -/
  twins : List (List Location)
  opened : Array OpenFile
  pipes : Array Pipe
  printed : Bytes
  complaints : Bytes
  /-- The number of processes so far. -/
  processes : Nat
  /-- The signals that processes have still to handle. -/
  signals : List SentSignal
  /-- Whether the shell has ended, so that nothing waits for what takes long. -/
  isEnding : Bool
  /-- The files when something has started to wait although the shell has ended. -/
  kept : Option Files
  /-- The microseconds for which programs have waited. -/
  clock : Nat
  /-- The time at which what waits is stopped. -/
  deadline : Option Nat

namespace World

def zeroCount : Nat := 1048576

/-- The number of bytes that a pipe takes before its writer is stopped. -/
def pipeLimit : Nat := 1048576

def content (w : World) : Endpoint → Bytes
  | .file l =>
    match w.files.entryAt? l with
    | some (.file b) => b
    | _ => []
  | .zeros => List.replicate zeroCount 0
  | .full => List.replicate zeroCount 0
  | .pipe n => (w.pipes.getD n .empty).content
  | _ => []

def isSeekable : Endpoint → Bool
  | .file _ => true
  | _ => false

def isEndless : Endpoint → Bool
  | .zeros => true
  | .full => true
  | _ => false

/-- Opens a file. The result has its number. -/
def add (w : World) (f : OpenFile) : Nat × World :=
  (w.opened.size, { w with opened := w.opened.push f })

/-- Opens a pipe to write to. The result has the numbers of the pipe and of the open file. -/
def addPipe (w : World) : Nat × Nat × World :=
  let pipe := w.pipes.size
  let w := { w with pipes := w.pipes.push .empty }
  let (n, w) := w.add ⟨.pipe pipe, 0, false, false, true⟩
  (pipe, n, w)

/-- What has been written to a pipe, which is dropped with the file that has been opened for it if
nothing has been opened since. -/
def takePipe (w : World) (pipe id : Nat) : Bytes × World :=
  let b := (w.pipes.getD pipe .empty).content
  if w.opened.size = id + 1 ∧ w.pipes.size = pipe + 1 then
    (b, { w with opened := w.opened.pop, pipes := w.pipes.pop })
  else (b, { w with pipes := w.pipes.set! pipe .empty })

def addReader (w : World) (pipe : Nat) : Nat × World := w.add ⟨.pipe pipe, 0, false, true, false⟩

/-- Opens some bytes to read from. The result has the number of the open file. -/
def addBytes (w : World) (b : Bytes) : Nat × World :=
  let pipe := w.pipes.size
  { w with pipes := w.pipes.push (.ofBytes b) }.addReader pipe

def unread (w : World) (n : Nat) : Bytes :=
  match w.opened[n]? with
  | some f =>
    if !f.reads then []
    else if isEndless f.endpoint then w.content f.endpoint
    else (w.content f.endpoint).drop f.position
  | none => []

def advance (w : World) (n count : Nat) : World :=
  match w.opened[n]? with
  | some f => { w with opened := w.opened.set! n { f with position := f.position + count } }
  | none => w

/-- The content of a file after bytes have been written at a position. -/
def overwritten (content : Bytes) (position : Nat) (b : Bytes) : Bytes :=
  let before := content.take position
  before ++ List.replicate (position - before.length) 0 ++ b ++
    content.drop (position + b.length)

/-- Why bytes cannot be written. -/
inductive WriteFault
  | badDescriptor
  | noSpace
  | brokenPipe
  deriving DecidableEq, Repr

def WriteFault.message : WriteFault → String
  | .badDescriptor => "Bad file descriptor"
  | .noSpace => "No space left on device"
  | .brokenPipe => "Broken pipe"

def sharing (w : World) (l : Location) : List Location :=
  (w.twins.find? (·.contains l)).getD [l]

def spread (w : World) (l : Location) : World :=
  match w.files.entryAt? l with
  | some (.file b) =>
    let others := (w.sharing l).filter (· ≠ l)
    { w with files := others.foldl (fun fs m => fs.put m (.file b)) w.files }
  | _ => w

def share (w : World) (l other : Location) : World :=
  let all := w.sharing l
  { w with twins := (all ++ [other]) :: w.twins.filter (!·.contains l) }.spread l

def forget (w : World) (l : Location) : World :=
  let left := w.twins.map fun all => all.filter fun m => !l.isPrefixOf m
  { w with twins := left.filter fun all => 1 < all.length }

def write (w : World) (n : Nat) (b : Bytes) : Except WriteFault World :=
  match w.opened[n]? with
  | none => .error .badDescriptor
  | some f =>
    if !f.writes then .error .badDescriptor
    else if b.isEmpty then .ok w
    else
      match f.endpoint with
      | .printed => .ok { w with printed := w.printed ++ b }
      | .complaints => .ok { w with complaints := w.complaints ++ b }
      | .directory => .error .badDescriptor
      | .null => .ok w
      | .zeros => .ok w
      | .full => .error .noSpace
      | .pipe p =>
        let before := w.pipes.getD p .empty
        if pipeLimit ≤ before.size then .error .brokenPipe
        else .ok { w with pipes := w.pipes.set! p (before.write b) }
      | .file l =>
        match w.files.entryAt? l with
        | some (.file before) =>
          let position := if f.appends then before.length else f.position
          let w := { w with files := w.files.put l (.file (overwritten before position b)) }
          .ok { w.spread l with
            opened := w.opened.set! n { f with position := position + b.length } }
        | _ => .ok (w.advance n b.length)

def fileMode : Nat := 420

/-- The permissions of new directories, and of files that may be executed. -/
def programMode : Nat := 493

def linkMode : Nat := 511

def mode (w : World) (l : Location) : Nat :=
  match w.files.entryAt? l, w.modes.lookup l with
  | some (.link _), _ => linkMode
  | _, some mode => mode
  | some .directory, none => programMode
  | _, none => fileMode

def setMode (w : World) (l : Location) (mode : Nat) : World :=
  let all := w.sharing l
  { w with modes := all.map (·, mode) ++ w.modes.filter fun entry => !all.contains entry.1 }

def lets (mode : Nat) : Bool := (mode / 64) % 2 = 1 || (mode / 8) % 2 = 1 || mode % 2 = 1

def mayExecute (w : World) (l : Location) : Bool := lets (w.mode l)

def removeAll (w : World) (l : Location) : World :=
  { w.forget l with
    files := w.files.removeAll l, modes := w.modes.filter fun entry => !l.isPrefixOf entry.1 }

/-- Moves a location and all below it to another one, in place of what is there. -/
def moveTo (w : World) (source dest : Location) : World :=
  let moved {α : Type} (entries : List (Location × α)) : List (Location × α) :=
    entries.filterMap fun (l, a) =>
      if source.isPrefixOf l then some (dest ++ l.drop source.length, a) else none
  let entries := moved w.files.entries
  let modes := moved w.modes
  let rename (l : Location) : Location :=
    if source.isPrefixOf l then dest ++ l.drop source.length else l
  let twins := (w.forget dest).twins.map (·.map rename)
  let w := (w.removeAll source).removeAll dest
  { w with
    files := { w.files with entries := entries ++ w.files.entries }, modes := modes ++ w.modes,
    twins := twins }

end World

/-- Bytes that are written at the end of a file follow those that are there. -/
theorem World.overwritten_end (content b : Bytes) :
    World.overwritten content content.length b = content ++ b := by
  simp [World.overwritten]

end FlashImage.Shell
