import FlashImage.Shell.Control
import FlashImage.Shell.Utility.Catalog

/-!
How programs are started: the small programs of the system, the shell, and scripts.

A script starts with a line that names the program that runs it. A file without such a line is run
by the shell where its starter does that.
-/

set_option autoImplicit false
set_option relaxedAutoImplicit false

namespace FlashImage.Shell

def shellNames : List String := ["sh", "dash", "bash"]

def programNames : List String := shellNames ++ utilities.map (·.1)

/-- A program that has been found. -/
inductive Found
  | shell
  | utility (program : Utility)
  | file (path : String) (content : Bytes)

def programAt (w : World) (path : String) : Except FileFault Found := do
  match ← startable w path with
  | .inl content => return .file path content
  | .inr name => return (utilities.lookup name).elim .shell .utility

def findProgram (w : World) (searchPath name : String) : Except FileFault Found := do
  programAt w (← findPath w searchPath name)

/-- The program that the first line of a script names, and the argument that it gives to it. -/
def scriptProgram? (content : Bytes) : Option (String × Option String) :=
  let isBlank (c : Char) : Bool := c = ' ' || c = '\t'
  match (ByteText.ofBytes (content.takeWhile (· ≠ 10))).toList with
  | '#' :: '!' :: line =>
    let line := ((line.dropWhile isBlank).reverse.dropWhile isBlank).reverse
    let program := line.takeWhile (!isBlank ·)
    let argument := (line.drop program.length).dropWhile isBlank
    some (String.ofList program,
      if argument.isEmpty then none else some (String.ofList argument))
  | _ => none

/-- Runs a shell with arguments in a process. The shell has the name of the speaker. -/
abbrev ShellRunner := (arguments : List String) → Process → Exit × Process

def Process.child (p : Process) (speaker : String) : Process :=
  let number := p.world.processes + 1
  { p with
    world := { p.world with processes := number }, number := number, parent := p.number,
    speaker := speaker, status := 0 }

def Process.resume (p ended : Process) : Process :=
  let w := ended.world
  { p with world := { w with files := { w.files with current := p.world.files.current } } }

/-- Runs a program that has been found in a process, down to a depth of programs that start one
another. A file that names no program is run by the shell if `lenient` says so. -/
def runFound (shell : ShellRunner) : (depth : Nat) → (lenient : Bool) → Found →
    (arguments : List String) → Process → Except FileFault (Exit × Process)
  | 0, _, _, _, _ => .error .notExecutable
  | depth + 1, lenient, found, arguments, p =>
    let starter : Starter := fun program arguments => do
      let p ← get
      let path := (p.environment.lookup "PATH").getD defaultPath
      match findProgram p.world path program with
      | .error fault => return .error fault
      | .ok found =>
        match runFound shell depth true found arguments (p.child program) with
        | .error fault => return .error fault
        | .ok (exit, ended) =>
          set (p.resume ended)
          return .ok exit
    match found with
    | .shell => .ok (shell arguments p)
    | .utility u => .ok ((u starter arguments).run p)
    | .file path content =>
      match scriptProgram? content with
      | some (program, argument) =>
        match programAt p.world program with
        | .error fault => .error fault
        | .ok found =>
          runFound shell depth false found (argument.toList ++ path :: arguments)
            { p with speaker := program }
      | none =>
        if lenient then .ok (shell (path :: arguments) { p with speaker := "/bin/sh" })
        else .error .notExecutable

end FlashImage.Shell
