import FlashImage.Shell.Meaning
import FlashImage.Shell.Redirect

/-!
How scripts are run, and how a shell that another one has started comes to its end.

The commands of a script are run by a runner. What is to be run for signals is run between them, and
what is to be run at the end does not change the status that the shell ends with.
-/

set_option autoImplicit false
set_option relaxedAutoImplicit false

namespace FlashImage.Shell

/-- How a command is run. -/
structure Mode where
  /-- Whether its status is looked at. -/
  tested : Bool
  /-- Whether nothing is run behind it, so that a program may take the place of the shell. -/
  final : Bool

def Mode.plain : Mode := ⟨false, false⟩

def Mode.condition : Mode := ⟨true, false⟩

/-- The way in which the commands in another one are run that is not over behind them. -/
def Mode.inner (m : Mode) : Mode := ⟨m.tested, false⟩

abbrev Runner := Mode → Command → Interpreting Unit

def killSignal : Nat := 9

def State.hasTraps (st : State) : Bool := st.traps.any fun (_, action) => !action.isEmpty

def Command.isNothing : Command → Bool
  | .nothing => true
  | _ => false

def enterLine (line : Nat) : Interpreting Unit := modify fun st => { st with line := line }

/-- Prints a part of the script before it is run, if an option says so. -/
def showRead (script rest : Script) : Interpreting Unit := do
  if (← get).has 'v' then
    let text := script.rest.take (script.rest.length - rest.rest.length)
    let _ ← Interpreting.runProgram "" (Program.printTo 2 (ByteText.toBytes (String.ofList text)))

def runScript (run : Runner) (mode : Mode) (script : Script) : Interpreting Unit := do
  let step (s : Script × Bool) : Interpreting ((Script × Bool) ⊕ Bool) := do
    let (script, started) := s
    match script.next with
    | .ending => return .inr started
    | .fault f =>
      enterLine f.line
      Interpreting.fail ("Syntax error: " ++ f.wording)
    | .command c rest =>
      showRead script rest
      modify fun st => { st with readLine := rest.line }
      run mode.inner c
      return .inl (rest, started || !c.isNothing)
  let started ← Interpreting.iterate step (script.rest.length + 2) (script, false)
  if !started then Interpreting.setStatus 0

def runText (run : Runner) (mode : Mode) (text : String) : Interpreting Unit := do
  let line := (← get).readLine
  Interpreting.ensuring (modify fun st => { st with readLine := line })
    (runScript run mode (Script.ofText text))

def runTrap (run : Runner) (action : String) : Interpreting Unit := do
  let st ← get
  let kept := st.kept
  set { st with kept := some (kept.getD st.status) }
  Interpreting.ensuring (modify fun st => { st with kept := kept }) (runText run .plain action)

def handleSignals (run : Runner) : Interpreting Unit := do
  let st ← get
  let w := st.process.world
  if w.signals.isEmpty then return
  let (mine, others) := w.signals.partition (·.process = st.process.number)
  set (st.withWorld { w with signals := others })
  let numbers := (List.range (lastSignal + 1)).filter fun n => mine.any (·.number = n)
  let isDeadly (n : Nat) : Bool :=
    n = killSignal || ((st.traps.lookup n).isNone && endsProgram n)
  match numbers.find? isDeadly with
  | some n => throw (.ended (.signal n))
  | none =>
    numbers.forM fun n => do
      match st.traps.lookup n with
      | some action =>
        let status := (← get).status
        if !action.isEmpty then
          runTrap run action
          Interpreting.setStatus status
      | none => return ()

def State.finishLeft (st : State) : State :=
  let w := st.process.world
  let (_, after) := finishJobs st.jobs { w with isEnding := true, kept := none }
  st.withWorld { after with
    files := { after.kept.getD after.files with current := w.files.current },
    isEnding := w.isEnding, kept := if w.isEnding then after.kept else none }

def conclude (run : Runner) (result : Except Stop Unit) (st : State) : Exit × State :=
  match result, st.traps.lookup 0 with
  | .error (.ended exit), _ => (exit, st.finishLeft)
  | _, none => (.status st.status, st.finishLeft)
  | _, some action =>
    let status := st.status
    let st := { st with traps := st.traps.filter (·.1 ≠ 0), loops := 0, speaker := none }
    match runTrap run action st with
    | (.error (.ended exit), st) => (exit, st.finishLeft)
    | (.error .exit, st) => (.status st.status, st.finishLeft)
    | (.error .fault, st) => (.status st.status, st.finishLeft)
    | (_, st) => (.status status, st.finishLeft)

/-- The state in which a shell starts that another shell has started. -/
def State.child (st : State) : State :=
  let number := st.process.world.processes + 1
  { st with
    process := { st.process with
      world := { st.process.world with processes := number }, number := number,
      parent := st.process.number }
    traps := st.traps.filter fun (_, action) => action.isEmpty
    jobs := []
    kept := none }

/-- Goes on in a shell when a process that it has started has ended. -/
def State.resume (st : State) (w : World) : State :=
  st.withWorld { w with files := { w.files with current := st.files.current } }

def runChild (run : Runner) (step : Interpreting Unit) (st : State) : Exit × World :=
  let (result, st) := step st
  let (exit, st) := conclude run result st
  (exit, st.process.world)

/-- Runs a command in a shell of its own, with other descriptors, and waits for its end. -/
def runApart (run : Runner) (change : State → State) (step : Interpreting Unit) :
    Interpreting Exit := do
  let st ← get
  let (exit, w) := runChild run step (change st.child)
  set (st.resume w)
  reportExit exit
  return exit

/-- Takes the output of a command. Line breaks at its end are left out. -/
def capture (run : Runner) : Capture := fun c => do
  if c.isNothing then return ""
  let st ← get
  let (pipe, id, w) := st.process.world.addPipe
  set (st.withWorld w)
  let exit ← runApart run (·.withDescriptor 1 (some id)) (run ⟨false, true⟩ c)
  let st ← get
  let (b, w) := st.process.world.takePipe pipe id
  set { st.withWorld w with outputStatus := exit.code }
  let chars := ((b.filter (· ≠ 0)).reverse.dropWhile (· = 10)).reverse
  return ByteText.ofBytes chars

end FlashImage.Shell
