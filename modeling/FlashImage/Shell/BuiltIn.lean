import FlashImage.Shell.Condition
import FlashImage.Shell.Control
import FlashImage.Shell.Print
import FlashImage.Shell.Script

/-!
The commands that a shell runs itself.

When a special one of them fails, the script ends. The others only have a status.
-/

set_option autoImplicit false
set_option relaxedAutoImplicit false

namespace FlashImage.Shell

/-- Runs a program as a command of the shell. What it prints is written at its end. -/
def asCommand (program : List String → Program Unit) (arguments : List String) :
    Interpreting Unit := do
  let st ← get
  let (pipe, id, w) := st.process.world.addPipe
  let (exit, p) := (program arguments).run { st.process with
    world := w, descriptors := (1, id) :: st.process.descriptors, speaker := st.lead, status := 0 }
  let (b, w) := p.world.takePipe pipe id
  set (st.withWorld w)
  Interpreting.setStatus exit.code
  if !b.isEmpty then Interpreting.print b

def succeeding (command : List String → Interpreting Unit) (arguments : List String) :
    Interpreting Unit := do
  Interpreting.setStatus 0
  command arguments

def remark (wording : String) : Interpreting Unit := do
  let _ ← Interpreting.runProgram "" (Program.printTo 2 (ByteText.toBytes (wording ++ "\n")))

/-- Lets texts stand for commands, or prints what stands for them. -/
def setAliases (arguments : List String) : Interpreting Unit := do
  let line (a : String × String) : String := a.1 ++ "=" ++ inQuotes a.2 ++ "\n"
  if arguments.isEmpty then
    Interpreting.printText (String.join ((← get).aliases.map line))
  arguments.forM fun argument => do
    match splitSetting argument with
    | (name, some text) =>
      modify fun st => { st with aliases := (name, text) :: st.aliases.filter (·.1 ≠ name) }
    | (name, none) =>
      match (← get).aliases.lookup name with
      | some text => Interpreting.printText (line (name, text))
      | none =>
        remark ("alias: " ++ name ++ " not found")
        Interpreting.setStatus 1

def unsetAliases (arguments : List String) : Interpreting Unit := do
  let (letters, names) ← takeOptions "a" arguments
  if !letters.isEmpty then modify fun st => { st with aliases := [] }
  names.forM fun name => do
    if ((← get).aliases.lookup name).isNone then
      remark ("unalias: " ++ name ++ " not found")
      Interpreting.setStatus 1
    modify fun st => { st with aliases := st.aliases.filter (·.1 ≠ name) }

def showTimes (_ : List String) : Interpreting Unit := do
  let line := "0m0.000000s 0m0.000000s\n"
  Interpreting.printText (line ++ line)

/-- A command that a shell runs itself. -/
structure BuiltIn where
  isSpecial : Bool
  run : List String → Interpreting Unit

def specialBuiltIns : List (String × (List String → Interpreting Unit)) :=
  [(":", succeeding fun _ => return ()), ("break", leaveLoops false),
    ("continue", leaveLoops true), ("exit", exitShell), ("export", succeeding exportVariables),
    ("local", succeeding makeLocal), ("readonly", succeeding protectVariables),
    ("return", returnShell), ("set", succeeding setAll), ("shift", succeeding shiftArguments),
    ("times", succeeding showTimes), ("trap", succeeding setTraps),
    ("unset", succeeding unsetNames)]

def regularBuiltIns : List (String × (List String → Interpreting Unit)) :=
  [("[", asCommand testBracket), ("alias", succeeding setAliases),
    ("bg", succeeding fun _ => return ()), ("cd", succeeding changeDirectory),
    ("chdir", succeeding changeDirectory), ("echo", asCommand echo),
    ("false", fun _ => Interpreting.setStatus 1), ("fg", succeeding fun _ => return ()),
    ("getopts", getOption), ("jobs", succeeding fun _ => return ()),
    ("kill", succeeding killProcesses), ("printf", asCommand printFormatted),
    ("pwd", succeeding printDirectory), ("read", readVariables), ("test", asCommand test),
    ("true", fun _ => Interpreting.setStatus 0), ("ulimit", succeeding showLimit),
    ("umask", succeeding showMask), ("unalias", succeeding unsetAliases),
    ("wait", waitForJobs)]

def builtIn? (name : String) : Option BuiltIn :=
  match specialBuiltIns.lookup name with
  | some run => some ⟨true, run⟩
  | none => (regularBuiltIns.lookup name).map (⟨false, ·⟩)

def lookupNames : List String := ["command", "hash", "type"]

def isBuiltIn (name : String) : Bool :=
  specialCommands.contains name || (regularBuiltIns.lookup name).isSome ||
    lookupNames.contains name

/-- Whether arguments of a command that set variables are treated like assignments. -/
def takesAssignments (name : String) : Bool :=
  ["alias", "export", "local", "readonly"].contains name

end FlashImage.Shell
