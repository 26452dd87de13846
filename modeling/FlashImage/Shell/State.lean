import FlashImage.Shell.Command
import FlashImage.Shell.Process
import FlashImage.Shell.Reader

/-!
The state of a shell that runs a script, and the steps that change it.

A step either goes on or stops what is being run: a loop, a function, the script, or the process.
-/

set_option autoImplicit false
set_option relaxedAutoImplicit false

namespace FlashImage.Shell

/-- A variable. One that is known by name only has no value. -/
structure Variable where
  name : String
  value : Option String
  /-- Whether programs that the script starts see it. -/
  exported : Bool
  readOnly : Bool
  deriving DecidableEq, Repr

/-- A function, and the line that its body starts on. -/
structure FunctionBody where
  line : Nat
  body : Command

/-- A process that runs beside the script. What it does is done when the script waits for it. -/
inductive JobState
  | pending (run : World → Exit × World)
  | done (exit : Exit)

/-- A process that a script has started to run beside it. -/
structure Job where
  process : Nat
  state : JobState

/-- The state of a shell. -/
structure State where
  process : Process
  /-- The name of the script. -/
  name : String
  arguments : List String
  bindings : List Variable
  functions : List (String × FunctionBody)
  /-- The texts that stand for commands. -/
  aliases : List (String × String)
  /-- What the variables of functions hide, those of the innermost function first. -/
  hidden : List (List (String × Option Variable))
  /-- The letters of the options that are set. -/
  options : List Char
  /-- What is run when signals arrive, or, under the number zero, when the shell ends. -/
  traps : List (Nat × String)
  /-- The number of the process that has started the script. -/
  shellNumber : Nat
  jobs : List Job
  lastJob : Option Nat
  status : Nat
  /-- The status before what is run for a signal or at the end. -/
  kept : Option Nat
  /-- The line of the command that is being run. -/
  line : Nat
  /-- The line that the function starts on that is being run. -/
  functionLine : Nat
  /-- The line up to which the script has been read. -/
  readLine : Nat
  /-- The command of the shell that is being run. -/
  speaker : Option String
  /-- The number of loops that are being run. -/
  loops : Nat
  /-- The number of functions that are being run. -/
  calls : Nat
  /-- The number of the next argument that may be an option. -/
  optionIndex : Nat
  /-- How far an argument with several options has been read. -/
  optionOffset : Nat
  /-- The status of the last command whose output has been taken. -/
  outputStatus : Nat
  /-- The programs that have been looked for, with their paths, the last one first. -/
  known : List (String × String)
  /-- The permissions that new files do not get. -/
  mask : Nat
  /-- The path of the directory from which relative paths start, over the links that it has been
  entered by. -/
  directory : String

/-- Why what is being run stops. -/
inductive Stop
  /-- The process is over. -/
  | ended (exit : Exit)
  /-- The script is over. -/
  | exit
  /-- Something cannot be done, which has been complained about. -/
  | fault
  /-- So many loops are left, or all but the last of them, which goes on. -/
  | leave (levels : Nat) (again : Bool)
  /-- The function is over. -/
  | return
  deriving DecidableEq, Repr

abbrev Interpreting (α : Type) := ExceptT Stop (StateM State) α

def misuse : Nat := 2

namespace State

def lead (st : State) : String :=
  let speaker :=
    match st.speaker with
    | some s => ": " ++ s
    | none => ""
  st.name ++ ": " ++ toString st.line ++ speaker

def has (st : State) (option : Char) : Bool := st.options.contains option

def named? (st : State) (name : String) : Option Variable :=
  st.bindings.find? fun v => v.name = name

def value? (st : State) (name : String) : Option String := (st.named? name).bind (·.value)

def put (st : State) (v : Variable) : State :=
  { st with bindings := v :: st.bindings.filter (·.name ≠ v.name) }

def drop (st : State) (name : String) : State :=
  { st with bindings := st.bindings.filter (·.name ≠ name) }

def environment (st : State) : List (String × String) :=
  st.bindings.reverse.filterMap fun v =>
    if v.exported then v.value.map fun value => (v.name, value) else none

def files (st : State) : Files := st.process.world.files

def withWorld (st : State) (w : World) : State :=
  { st with process := { st.process with world := w } }

theorem value?_put (st : State) (v : Variable) (name : String) :
    (st.put v).value? name = if name = v.name then v.value else st.value? name := by
  unfold value? named? put
  by_cases h : name = v.name
  · subst h
    simp
  · rw [if_neg h]
    refine congrArg (fun o : Option Variable => o.bind (·.value)) ?_
    rw [List.find?_cons_of_neg (by simpa using fun e => h e.symm), List.find?_filter]
    congr 1
    funext x
    by_cases hx : x.name = name
    · simp [hx, h]
    · simp [hx]

end State

namespace Interpreting

def complain (wording : String) : Interpreting Unit := modify fun st =>
  let b := ByteText.toBytes (st.lead ++ ": " ++ wording ++ "\n")
  match st.process.descriptors.lookup 2 with
  | some id =>
    match st.process.world.write id b with
    | .ok w => st.withWorld w
    | .error _ => st
  | none => st

def setStatus (n : Nat) : Interpreting Unit := modify fun st => { st with status := n }

def fail {α : Type} (wording : String) : Interpreting α := do
  complain wording
  setStatus misuse
  throw .fault

def print (b : Bytes) : Interpreting Unit := do
  let st ← get
  let id := (st.process.descriptors.lookup 1).getD st.process.world.opened.size
  match st.process.world.write id b with
  | .ok w => set (st.withWorld w)
  | .error .brokenPipe => throw (.ended (.signal Program.pipeSignal))
  | .error _ =>
    complain (st.speaker.getD "" ++ ": I/O error")
    setStatus 1

def printText (s : String) : Interpreting Unit := print (ByteText.toBytes s)

def putValue (name value : String) : Interpreting Unit := do
  let st ← get
  match st.named? name with
  | some v =>
    if v.readOnly then fail (name ++ ": is read only")
    set (st.put { v with value := some value, exported := v.exported || st.has 'a' })
  | none => set (st.put ⟨name, some value, st.has 'a', false⟩)

/-- Gives a variable a value. The variable for options says where to go on with them. -/
def assign (name value : String) : Interpreting Unit := do
  putValue name value
  if name = "OPTIND" then
    let index := (decimal? value).getD 1
    modify fun st => { st with optionIndex := max 1 index, optionOffset := 0 }
  if name = "PATH" then modify fun st => { st with known := [] }

def unassign (name : String) : Interpreting Unit := do
  let st ← get
  match st.named? name with
  | some v =>
    if v.readOnly then fail (name ++ ": is read only")
    set (st.drop name)
  | none => return ()

def hide (name : String) : Interpreting Unit := modify fun st =>
  match st.hidden with
  | first :: rest =>
    if (first.lookup name).isSome then st
    else { st with hidden := ((name, st.named? name) :: first) :: rest }
  | [] => st

def openScope : Interpreting Unit := modify fun st => { st with hidden := [] :: st.hidden }

def closeScope : Interpreting Unit := modify fun st =>
  match st.hidden with
  | first :: rest => first.foldl restore { st with hidden := rest }
  | [] => st
where
  restore (st : State) : String × Option Variable → State
    | (_, some v) => st.put v
    | (name, none) => st.drop name

def ensuring {α : Type} (last : Interpreting Unit) (step : Interpreting α) : Interpreting α :=
  fun st =>
  let (result, st) := step st
  match last st with
  | (.ok (), st) => (result, st)
  | (.error stop, st) => (.error stop, st)

def iterate {α σ : Type} (step : σ → Interpreting (σ ⊕ α)) : (limit : Nat) → σ → Interpreting α
  | 0, _ => throw (.ended (.status misuse))
  | limit + 1, s => fun st =>
    match step s st with
    | (.ok (.inr a), st) => (.ok a, st)
    | (.ok (.inl s), st) => iterate step limit s st
    | (.error stop, st) => (.error stop, st)

/-- Takes a step for each element, up to the first that has a result. -/
def firstOf {α β : Type} (step : α → Interpreting (Option β)) : List α → Interpreting (Option β)
  | [] => return none
  | a :: rest => fun st =>
    match step a st with
    | (.ok (some b), st) => (.ok (some b), st)
    | (.ok none, st) => firstOf step rest st
    | (.error stop, st) => (.error stop, st)

def runProgram (speaker : String) (program : Program Unit) : Interpreting Exit := do
  let st ← get
  let (exit, p) := program.run { st.process with speaker := speaker, status := 0 }
  set { st with process := { st.process with world := p.world } }
  return exit

end Interpreting
end FlashImage.Shell
