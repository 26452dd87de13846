import FlashImage.Shell.Compound

/-!
How simple commands are run: functions, commands of the shell, and programs.

The words of a command are expanded first, then its redirections take effect, and then its variables
are set. For most commands both are taken back behind them.
-/

set_option autoImplicit false
set_option relaxedAutoImplicit false

namespace FlashImage.Shell

def callLimit : Nat := 1000

/-- The number of programs that may be started by one another without a shell. -/
def programDepth : Nat := 16

def callFunction (run : Runner) (mode : Mode) (f : FunctionBody) (arguments : List String) :
    Interpreting Unit := do
  let before ← get
  if callLimit ≤ before.calls then
    Interpreting.fail ("Maximum function recursion depth (" ++ toString callLimit ++ ") reached")
  let restore (st : State) : State :=
    { st with
      arguments := before.arguments, optionIndex := before.optionIndex,
      optionOffset := before.optionOffset, loops := before.loops, calls := before.calls,
      functionLine := before.functionLine }
  let body : Interpreting Unit := fun st =>
    match run mode.inner f.body st with
    | (.error .return, st) => (.ok (), st)
    | result => result
  set { before with
    arguments := arguments, optionIndex := 1, optionOffset := 0, loops := 0,
    calls := before.calls + 1, functionLine := f.line }
  Interpreting.openScope
  Interpreting.ensuring Interpreting.closeScope (Interpreting.ensuring (modify restore) body)

def runFile (run : Runner) (arguments : List String) : Interpreting Unit := do
  let (_, names) ← takeOptions "" arguments
  match names with
  | [] => Interpreting.setStatus 0
  | name :: _ =>
    let st ← get
    let isFile (path : String) : Bool := st.files.isFile (ByteText.decode path)
    let path? :=
      if name.toList.contains '/' then some name
      else (candidates st.searchPath name).find? isFile
    match path? with
    | none => Interpreting.fail (name ++ ": not found")
    | some path =>
      match st.files.read (ByteText.decode path) with
      | .error _ => Interpreting.fail ("cannot open " ++ path ++ ": No such file")
      | .ok content =>
        set { st with speaker := some path }
        let (result, st) := runText run .plain (ByteText.ofBytes content) (← get)
        set st
        match result with
        | .ok () => return ()
        | .error .return => return ()
        | .error stop => throw stop

/-- The status and the wording for a program that cannot be started. -/
def startFault (name : String) : FileFault → Nat × String
  | .notFound => (127, "not found")
  | .notDirectory => (127, "not found")
  | .nameTooLong => (127, "File name too long")
  | .notPermitted => (if name.toList.contains '/' then 126 else 127, "Permission denied")
  | fault => (126, faultWording fault)

def refuseStart (name : String) (fault : FileFault) : Interpreting Unit := do
  let (status, wording) := startFault name fault
  Interpreting.complain (name ++ ": " ++ wording)
  Interpreting.setStatus status

/-- The process in which a program starts in the place of a shell. -/
def State.started (st : State) (name : String) : Process :=
  { st.process with
    environment := st.environment, speaker := name, status := 0,
    ignored := st.traps.filterMap fun (n, action) => if action.isEmpty then some n else none }

/-- Starts a program and waits for its end, or lets it take the place of the shell. -/
def runProgramAt (shell : ShellRunner) (replaces : Bool) (searchPath name : String)
    (arguments : List String) : Interpreting Unit := do
  if name = "sleep" then awaitJobs
  let st ← get
  match findPath st.process.world searchPath name with
  | .error fault => refuseStart name fault
  | .ok path =>
    if !name.toList.contains '/' && (st.known.lookup name).isNone then
      modify fun st => { st with known := st.known ++ [(name, path)] }
    let start := if replaces then st.started name else (st.started name).child name
    let result := do
      runFound shell programDepth true (← programAt st.process.world path) arguments start
    match result with
    | .error .notFound => refuseStart name .notFound
    | .error fault => refuseStart ("/" ++ name) fault
    | .ok (exit, p) =>
      if replaces then
        modify fun st => st.withWorld p.world
        throw (.ended exit)
      else
        modify fun st => st.resume p.world
        reportExit exit
        Interpreting.setStatus exit.code

/-- What a simple command runs. -/
inductive Resolved
  | nothing
  | function (f : FunctionBody)
  | builtIn
  | program (searchPath : String)

/-- Finds what the words of a simple command run. The result has the words without those that only
say how the others are run, and whether there are such words. -/
def resolve (st : State) : (limit : Nat) → (isPassed byDefault : Bool) → List String →
    Resolved × List String × Bool
  | 0, isPassed, _, words => (.builtIn, words, isPassed)
  | _, isPassed, _, [] => (.nothing, [], isPassed)
  | limit + 1, isPassed, byDefault, name :: rest =>
    let searchPath := if byDefault then defaultPath else st.searchPath
    if specialCommands.contains name then (.builtIn, name :: rest, isPassed)
    else
      match if isPassed then none else st.functions.lookup name with
      | some f => (.function f, name :: rest, isPassed)
      | none =>
        if name = "command" then
          match readPassed rest with
          | some (uses, words) => resolve st limit true (byDefault || uses) words
          | none => (.builtIn, name :: rest, isPassed)
        else if isBuiltIn name then (.builtIn, name :: rest, isPassed)
        else (.program searchPath, name :: rest, isPassed)

/-- The fields that the words of a simple command stand for. Values of variables among the arguments
of some commands are not split. -/
def expandWords (run : Runner) (words : List Word) : Interpreting (List String) :=
  words.foldlM add []
where
  add (fields : List String) (w : Word) : Interpreting (List String) := do
    let st ← get
    let takes :=
      match resolve st (fields.length + 1) false false fields with
      | (.builtIn, name :: _, _) => takesAssignments name
      | _ => false
    match takes, w.assignment? with
    | true, some (name, value) =>
      return fields ++ [name ++ "=" ++ (← expandValue (capture run) value)]
    | _, _ => return fields ++ (← expandFields (capture run) w)

def replaceShell (shell : ShellRunner) (arguments : List String) : Interpreting Unit := do
  Interpreting.setStatus 0
  match arguments with
  | [] => return ()
  | name :: rest =>
    runProgramAt shell true (← get).searchPath name rest
    throw .exit

def runBuiltIn (shell : ShellRunner) (run : Runner) (mode : Mode) (name : String)
    (arguments : List String) : Interpreting Unit := do
  match name with
  | "." => runFile run arguments
  | "command" => describeCommand arguments
  | "eval" =>
    if arguments.isEmpty then Interpreting.setStatus 0
    else runText run mode.inner (" ".intercalate arguments)
  | "exec" => replaceShell shell (if arguments.head? = some "--" then arguments.tail else arguments)
  | "hash" => findNames arguments
  | "type" => describeNames arguments
  | name =>
    match builtIn? name with
    | some b => b.run arguments
    | none => return ()

/-- Runs a command of the shell under its name. A failure stops the script only if the command is a
special one that is not passed on by another one. -/
def runNamed (shell : ShellRunner) (run : Runner) (mode : Mode) (isSpecial : Bool) (name : String)
    (arguments : List String) : Interpreting Unit := fun st =>
  let before := st.speaker
  let (result, st) := runBuiltIn shell run mode name arguments { st with speaker := some name }
  let st := { st with speaker := before }
  match result with
  | .error .fault => if isSpecial then (.error .fault, st) else (.ok (), st)
  | result => (result, st)

/-- Prints a simple command before it is run, if an option says so. -/
def showCommand (id : Option Nat) (settings : List (String × String)) (words : List String) :
    Interpreting Unit := do
  let st ← get
  if st.has 'x' then
    let parts := settings.map (fun (name, value) => name ++ "=" ++ value) ++ words
    let line := (st.value? "PS4").getD "" ++ " ".intercalate parts ++ "\n"
    match id.map fun id => st.process.world.write id (ByteText.toBytes line) with
    | some (.ok w) => set (st.withWorld w)
    | _ => return ()

def setVariables (run : Runner) (isLocal isExported : Bool) (assignments : List (String × Word)) :
    Interpreting (List (String × String)) :=
  assignments.mapM fun (name, w) => do
    let value ← expandValue (capture run) w
    if isLocal then Interpreting.hide name
    Interpreting.assign name value
    if isLocal || isExported then
      modify fun st =>
        match st.named? name with
        | some v => st.put { v with exported := true }
        | none => st
    return (name, value)

def runSimple (shell : ShellRunner) (run : Runner) (mode : Mode)
    (assignments : List (String × Word)) (words : List Word) (redirections : List Redirection) :
    Interpreting Unit := do
  modify fun st => { st with outputStatus := 0 }
  let fields ← expandWords run words
  let (resolved, rest, isPassed) := resolve (← get) (fields.length + 1) false false fields
  let isSpecial := !isPassed && (fields.head?.any specialCommands.contains)
  let isLocal := !isSpecial && !fields.isEmpty
  let replaces := rest.head? = some "exec"
  let errors := (← get).process.descriptors.lookup 2
  let os ← redirections.mapM (findOpening (capture run))
  let act : Interpreting Unit := do
    if !(← redirect (capture run) os) then
      Interpreting.setStatus misuse
      if isSpecial then throw .fault
    else
      let exports := replaces && 1 < rest.length
      let settings ← setVariables run isLocal exports assignments
      showCommand errors settings fields
      match resolved with
      | .nothing => modify fun st => { st with status := st.outputStatus }
      | .function f => callFunction run mode f rest.tail
      | .builtIn => runNamed shell run mode isSpecial (rest.headD "") rest.tail
      | .program searchPath =>
        let st ← get
        let searchPath := if assignments.any (·.1 = "PATH") then st.searchPath else searchPath
        let replaces := mode.final && !st.hasTraps
        runProgramAt shell replaces searchPath (rest.headD "") rest.tail
  let inScope : Interpreting Unit :=
    if isLocal && !assignments.isEmpty then do
      Interpreting.openScope
      Interpreting.ensuring Interpreting.closeScope act
    else act
  if replaces then inScope else restoring os inScope

end FlashImage.Shell
