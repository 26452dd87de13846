import FlashImage.Shell.Input
import FlashImage.Shell.Signal

/-!
The commands of the shell for directories, processes and signals, and for leaving what is being run.
-/

set_option autoImplicit false
set_option relaxedAutoImplicit false

namespace FlashImage.Shell

def currentPath (fs : Files) : String := ByteText.encode (pathOf fs.current)

/-- A path from a directory, whose own path is given, without points and double slashes. Two points
take the name in front of them away, whether it is a link or not. -/
def joinedPath (directory path : String) : String :=
  let whole := if path.startsWith "/" then path else directory ++ "/" ++ path
  let slashes := whole.toList.takeWhile (· = '/')
  let lead := if slashes.length = 2 then "//" else "/"
  let step (kept : List String) (part : String) : List String :=
    if part = "" || part = "." then kept
    else if part = ".." then kept.drop 1
    else part :: kept
  lead ++ "/".intercalate ((whole.splitOn "/").foldl step []).reverse

def assignExported (name value : String) : Interpreting Unit := do
  Interpreting.assign name value
  modify fun st =>
    match st.named? name with
    | some v => st.put { v with exported := true }
    | none => st

/-- Changes the directory. The result says whether that has worked. -/
def enterDirectory (isPhysical : Bool) (path : String) : Interpreting Bool := do
  let st ← get
  let text := if isPhysical then path else joinedPath st.directory path
  match st.files.find (ByteText.decode text) with
  | .ok (l, .directory) =>
    let w := st.process.world
    let fs := { w.files with current := l }
    let after := if isPhysical then currentPath fs else text
    set { st.withWorld { w with files := fs } with directory := after }
    assignExported "OLDPWD" st.directory
    assignExported "PWD" after
    return true
  | _ => return false

/-- The directories that a relative path is looked for in, each with whether it is told which one it
is. -/
def startingPoints (searched path : String) : List (String × Bool) :=
  (searched.splitOn ":").map fun lead =>
    if lead.isEmpty then (path, false) else (lead ++ "/" ++ path, true)

def changeDirectory (arguments : List String) : Interpreting Unit := do
  let (letters, rest) ← takeOptions "LP" arguments
  let isPhysical := letters.getLast? = some 'P'
  let st ← get
  let isBack := rest.head? = some "-"
  let path :=
    match rest with
    | "-" :: _ => (st.value? "OLDPWD").getD ""
    | path :: _ => path
    | [] => (st.value? "HOME").getD ""
  let first := (path.splitOn "/").headD ""
  let isDirect := path.startsWith "/" || first = "." || first = ".."
  let path := if path.isEmpty then "." else path
  let points :=
    match st.value? "CDPATH", isDirect with
    | some searched, false => startingPoints searched path
    | _, _ => []
  let point? := points.find? fun (point, _) => st.files.isDirectory (ByteText.decode point)
  let (point, isTold) := point?.getD (path, false)
  if ← enterDirectory isPhysical point then
    if isTold || isBack then Interpreting.printText ((← get).directory ++ "\n")
  else Interpreting.fail ("can't cd to " ++ path)

def printDirectory (arguments : List String) : Interpreting Unit := do
  let (letters, _) ← takeOptions "LP" arguments
  let st ← get
  let path := if letters.getLast? = some 'P' then currentPath st.files else st.directory
  Interpreting.printText (path ++ "\n")

def statusOf (arguments : List String) (other : Nat) : Interpreting Nat := do
  match arguments with
  | [] => return other
  | s :: _ => return (← countOf s) % 256

def exitShell (arguments : List String) : Interpreting Unit := do
  let st ← get
  Interpreting.setStatus (← statusOf arguments (st.kept.getD st.status))
  throw .exit

def returnShell (arguments : List String) : Interpreting Unit := do
  Interpreting.setStatus (← statusOf arguments (← get).status)
  throw .return

def leaveLoops (again : Bool) (arguments : List String) : Interpreting Unit := do
  let n ← match arguments with
    | [] => pure 1
    | s :: _ => countOf s
  if n = 0 then Interpreting.fail ("Illegal number: " ++ arguments.headD "")
  let loops := (← get).loops
  Interpreting.setStatus 0
  if loops ≠ 0 then throw (.leave (min n loops) again)

def Job.finish (j : Job) (w : World) : Job × World :=
  match j.state with
  | .pending run =>
    let (exit, w) := run w
    ({ j with state := .done exit }, w)
  | .done _ => (j, w)

def finishJobs : List Job → World → List Job × World
  | [], w => ([], w)
  | j :: rest, w =>
    let (j, w) := j.finish w
    let (rest, w) := finishJobs rest w
    (j :: rest, w)

def awaitJobs : Interpreting Unit := modify fun st =>
  let (jobs, w) := finishJobs st.jobs st.process.world
  { st.withWorld w with jobs := jobs }

def reportExit (exit : Exit) : Interpreting Unit := do
  match exit with
  | .signal n =>
    match endingText? n with
    | some text =>
      let _ ← Interpreting.runProgram "" (Program.printTo 2 (ByteText.toBytes (text ++ "\n")))
    | none => return ()
  | .status _ => return ()

def waitForJobs (arguments : List String) : Interpreting Unit := do
  awaitJobs
  let status ← arguments.foldlM wait 0
  if arguments.isEmpty then modify fun st => { st with jobs := [] }
  Interpreting.setStatus status
where
  wait (_ : Nat) (argument : String) : Interpreting Nat := do
    if argument.startsWith "%" then Interpreting.fail ("No such job: " ++ argument)
    let n ← countOf argument
    match (← get).jobs.find? (·.process = n) with
    | some ⟨_, .done exit⟩ =>
      reportExit exit
      return exit.code
    | _ => return 127

def isProcess (st : State) (n : Int) : Bool :=
  let isLive (j : Job) : Bool :=
    match j.state with
    | .pending _ => n = j.process
    | .done _ => false
  n = st.process.number || n = st.shellNumber || n = st.process.parent || st.jobs.any isLive

/-- Sends a signal to a process. A job that it ends never does what it was to do. -/
def sendSignal (signal : Nat) (process : Nat) : Interpreting Unit := modify fun st =>
  let endJob (j : Job) : Job :=
    if j.process = process && endsProgram signal then { j with state := .done (.signal signal) }
    else j
  if st.jobs.any (·.process = process) then { st with jobs := st.jobs.map endJob }
  else if signal = 0 then st
  else
    let w := st.process.world
    st.withWorld { w with signals := w.signals ++ [⟨process, signal⟩] }

def sendSignals (signal : Nat) (processes : List String) : Interpreting Unit := do
  Interpreting.setStatus 0
  processes.forM fun process => do
    if process.startsWith "%" then Interpreting.fail ("No such job: " ++ process)
    match processNumber? process with
    | none =>
      Interpreting.fail ("Illegal number: " ++ String.ofList (process.toList.dropWhile (· = '-')))
    | some n =>
      if isProcess (← get) n then sendSignal signal n.toNat
      else
        Interpreting.complain "No such process\n"
        Interpreting.setStatus 1

def killProcesses (arguments : List String) : Interpreting Unit := do
  match SignalRequest.read arguments with
  | .refused wording => Interpreting.fail wording
  | .send signal processes => sendSignals signal processes
  | .nameOf signal => Interpreting.printText ((scriptName? signal).getD "" ++ "\n")
  | .names =>
    let names := (List.range (lastSignal + 1)).map fun n => (scriptName? n).getD (toString n)
    Interpreting.printText (String.join (names.map (· ++ "\n")))

/-- The name under which what is run at the end of a shell is set. -/
def endingName : String := "EXIT"

def trapNumber? (s : String) : Option Nat :=
  if s.toUpper = endingName then some 0 else signalOf? s

def setTraps (arguments : List String) : Interpreting Unit := do
  let (_, rest) ← takeOptions "" arguments
  match rest with
  | [] =>
    let st ← get
    let sorted := st.traps.mergeSort fun a b => decide (a.1 ≤ b.1)
    let lines := sorted.map fun (n, action) =>
      let name := if n = 0 then endingName else (scriptName? n).getD (toString n)
      "trap -- " ++ inQuotes action ++ " " ++ name ++ "\n"
    Interpreting.printText (String.join lines)
  | first :: names =>
    if names.isEmpty || (decimal? first).any (· ≤ lastSignal) then put none rest
    else put (if first = "-" then none else some first) names
where
  put (action : Option String) : List String → Interpreting Unit
    | [] => return ()
    | name :: rest => do
      match trapNumber? name with
      | none =>
        let wording := "trap: " ++ name ++ ": bad trap\n"
        let _ ← Interpreting.runProgram "" (Program.printTo 2 (ByteText.toBytes wording))
        Interpreting.setStatus 1
      | some n =>
        modify fun st =>
          let others := st.traps.filter (·.1 ≠ n)
          { st with traps := match action with
            | some s => (n, s) :: others
            | none => others }
        put action rest

def permissionText (mask : Nat) : String :=
  let letters (bits : Nat) : String :=
    String.ofList (("rwx".toList.zip [4, 2, 1]).filterMap fun (c, bit) =>
      if (bits / bit) % 2 = 0 then some c else none)
  "u=" ++ letters (mask / 64 % 8) ++ ",g=" ++ letters (mask / 8 % 8) ++ ",o=" ++ letters (mask % 8)

/-- Prints the permissions that new files do not get, or sets them. -/
def showMask (arguments : List String) : Interpreting Unit := do
  let (letters, rest) ← takeOptions "S" arguments
  let octal (n : Nat) : String := String.ofList (Nat.toDigits 8 n)
  match rest with
  | [] =>
    let mask := (← get).mask
    let digits := octal mask
    let shown := String.ofList (List.replicate (4 - digits.length) '0') ++ digits
    Interpreting.printText ((if letters.isEmpty then shown else permissionText mask) ++ "\n")
  | s :: _ =>
    if (decimal? s).isSome then
      if s.toList.any fun c => '8' ≤ c then Interpreting.fail ("Illegal number: " ++ s)
      let mask := s.toList.foldl (fun n c => n * 8 + (c.toNat - '0'.toNat)) 0
      modify fun st => { st with mask := mask % 512 }

/-- Prints that there is no limit, or passes over one that is asked for. -/
def showLimit (arguments : List String) : Interpreting Unit := do
  let isNumber (s : String) : Bool := (decimal? s).isSome || s = "unlimited"
  if !arguments.any isNumber then Interpreting.printText "unlimited\n"

end FlashImage.Shell
