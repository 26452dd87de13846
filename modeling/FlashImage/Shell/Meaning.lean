import FlashImage.Shell.BuiltIn
import FlashImage.Shell.Launch

/-!
What the names of commands stand for, and the commands of the shell that tell it.
-/

set_option autoImplicit false
set_option relaxedAutoImplicit false

namespace FlashImage.Shell

/-- What the name of a command stands for. -/
inductive Meaning
  | keyword
  | standIn (text : String)
  | function
  | builtIn (isSpecial : Bool)
  | program (path : String) (isKnown : Bool)
  | nothing
  deriving DecidableEq, Repr

def State.searchPath (st : State) : String := (st.value? "PATH").getD ""

def meaningOf (searchPath name : String) : Interpreting Meaning := do
  let st ← get
  if keywords.contains name then return .keyword
  match st.aliases.lookup name with
  | some text => return .standIn text
  | none => pure ()
  if (st.functions.lookup name).isSome then return .function
  if isBuiltIn name then return .builtIn (specialCommands.contains name)
  match st.known.lookup name, findPath st.process.world searchPath name with
  | some path, _ => return .program path true
  | none, .ok path =>
    if !name.toList.contains '/' then set { st with known := st.known ++ [(name, path)] }
    return .program path false
  | none, .error _ => return .nothing

def Meaning.described (name : String) : Meaning → String
  | .keyword => name ++ " is a shell keyword"
  | .standIn text => name ++ " is an alias for " ++ text
  | .function => name ++ " is a shell function"
  | .builtIn true => name ++ " is a special shell builtin"
  | .builtIn false => name ++ " is a shell builtin"
  | .program path false => name ++ " is " ++ path
  | .program path true => name ++ " is a tracked alias for " ++ path
  | .nothing => name ++ ": not found"

def Meaning.named? (name : String) : Meaning → Option String
  | .standIn text => some ("alias " ++ name ++ "=" ++ inQuotes text)
  | .program path _ => some path
  | .nothing => none
  | _ => some name

def notFoundStatus : Nat := 127

def describeNames (names : List String) : Interpreting Unit := do
  Interpreting.setStatus 0
  names.forM fun name => do
    let m ← meaningOf (← get).searchPath name
    Interpreting.printText (m.described name ++ "\n")
    if m = .nothing then Interpreting.setStatus notFoundStatus

def describeCommand (arguments : List String) : Interpreting Unit := do
  Interpreting.setStatus 0
  let (letters, names) ← takeOptions "pvV" arguments
  let st ← get
  let searchPath := if letters.contains 'p' then defaultPath else st.searchPath
  match names with
  | name :: _ =>
    let m ← meaningOf searchPath name
    if letters.getLast? = some 'V' then Interpreting.printText (m.described name ++ "\n")
    else
      match m.named? name with
      | some text => Interpreting.printText (text ++ "\n")
      | none => pure ()
    if m = .nothing then Interpreting.setStatus notFoundStatus
  | [] => return ()

/-- Looks for programs, or prints those that have been looked for. -/
def findNames (arguments : List String) : Interpreting Unit := do
  Interpreting.setStatus 0
  let (letters, names) ← takeOptions "rv" arguments
  if letters.contains 'r' then modify fun st => { st with known := [] }
  else if names.isEmpty then
    Interpreting.printText (String.join ((← get).known.map fun (_, path) => path ++ "\n"))
  names.forM fun name => do
    if (← meaningOf (← get).searchPath name) = .nothing then
      Interpreting.complain (name ++ ": not found")
      Interpreting.setStatus 1

/-- Reads the options of a command that runs another one. The result has the words of the other one,
and whether it is looked for where programs are by default. It is missing if nothing is to be run.
-/
def readPassed : List String → Option (Bool × List String)
  | [] => none
  | "--" :: rest => if rest.isEmpty then none else some (false, rest)
  | word :: rest =>
    match word.toList with
    | '-' :: c :: letters =>
      if (c :: letters).all (· = 'p') then (readPassed rest).map fun (_, words) => (true, words)
      else none
    | _ => some (false, word :: rest)

end FlashImage.Shell
