import FlashImage.Shell.Run

/-!
How a shell starts: its options, its variables, and where its script comes from.

The script is an argument, the content of a file, or what is read from the input.
-/

set_option autoImplicit false
set_option relaxedAutoImplicit false

namespace FlashImage.Shell

/-- The variables that a shell has from the start, unless others are handed to it. -/
def defaultVariables : List (String × String) :=
  [("PATH", defaultPath), ("PS1", "# "), ("PS2", "> "), ("PS4", "+ ")]

/-- The path of the directory of a shell at its start. One that is handed to it is kept if it leads
there. -/
def startDirectory (p : Process) : String :=
  let fs := p.world.files
  match p.environment.lookup "PWD" with
  | some path =>
    match fs.find (ByteText.decode path) with
    | .ok (l, _) => if path.startsWith "/" && l = fs.current then path else currentPath fs
    | .error _ => currentPath fs
  | none => currentPath fs

def startVariables (p : Process) : List Variable :=
  let given := p.environment.filter fun (name, _) => isName name && !fixedNames.contains name
  let defaults := defaultVariables.filter fun (name, _) => (given.lookup name).isNone
  let current := startDirectory p
  given.map (fun (name, value) => ⟨name, some value, true, false⟩) ++
    defaults.map (fun (name, value) => ⟨name, some value, false, false⟩) ++
    [⟨"IFS", some " \t\n", false, false⟩, ⟨"OPTIND", some "1", false, false⟩,
      ⟨"PPID", some (toString p.parent), false, false⟩, ⟨"PWD", some current, true, false⟩]
where
  fixedNames : List String := ["IFS", "OPTIND", "PPID", "PWD"]

def State.ofProcess (p : Process) : State where
  process := p
  name := p.speaker
  arguments := []
  bindings := startVariables p
  functions := []
  aliases := []
  hidden := []
  options := []
  traps := p.ignored.map fun n => (n, "")
  shellNumber := p.number
  jobs := []
  lastJob := none
  status := 0
  kept := none
  line := 0
  functionLine := 0
  readLine := 1
  speaker := none
  loops := 0
  calls := 0
  optionIndex := 1
  optionOffset := 0
  outputStatus := 0
  known := []
  mask := 18
  directory := startDirectory p

def runNamedFile (run : Runner) (path : String) : Interpreting Unit := do
  match (← get).files.read (ByteText.decode path) with
  | .error .isDirectory => return ()
  | .error _ => Interpreting.fail ("cannot open " ++ path ++ ": No such file")
  | .ok content =>
    modify fun st => { st with name := path }
    runScript run .plain (Script.ofText (ByteText.ofBytes content))

def runInput (run : Runner) : Interpreting Unit := do
  let st ← get
  match st.process.descriptors.lookup 0 with
  | some id =>
    let b := st.process.world.unread id
    set (st.withWorld (st.process.world.advance id b.length))
    runScript run .plain (Script.ofText (ByteText.ofBytes b))
  | none => return ()

def runArguments (run : Runner) (arguments : List String) : Interpreting Unit := do
  let given ← readOptions true (arguments.length + 1) arguments
  match given.isDirect, given.rest with
  | true, [] => Interpreting.fail "-c requires an argument"
  | true, text :: rest =>
    modify fun st => { st with name := rest.headD st.name, arguments := rest.tail }
    runScript run .plain (Script.ofText text)
  | false, [] =>
    setOption true 's'
    runInput run
  | false, path :: rest =>
    if (← get).has 's' then
      modify fun st => { st with arguments := path :: rest }
      runInput run
    else
      modify fun st => { st with arguments := rest }
      runNamedFile run path

/-- Runs a shell in a process, down to a depth of shells that start one another. -/
def runShell : (depth : Nat) → ShellRunner
  | 0, _, p => (.status misuse, p)
  | depth + 1, arguments, p =>
    let run := runCommand (runShell depth) commandDepth
    let (result, st) := runArguments run arguments (State.ofProcess p)
    let (exit, st) := conclude run result st
    (exit, st.process)

def shellDepth : Nat := 1000

end FlashImage.Shell
