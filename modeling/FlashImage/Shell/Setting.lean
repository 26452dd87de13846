import FlashImage.Shell.Expansion

/-!
The commands of the shell for variables, options and arguments.
-/

set_option autoImplicit false
set_option relaxedAutoImplicit false

namespace FlashImage.Shell

def inQuotes (s : String) : String :=
  "'" ++ String.intercalate "'\"'\"'" (s.splitOn "'") ++ "'"

def splitSetting (s : String) : String × Option String :=
  let name := s.toList.takeWhile (· ≠ '=')
  match s.toList.drop name.length with
  | _ :: value => (String.ofList name, some (String.ofList value))
  | [] => (String.ofList name, none)

def checkName (name : String) : Interpreting Unit := do
  if !isName name then Interpreting.fail (name ++ ": bad variable name")

def takeOptions (allowed : String) : List String → Interpreting (List Char × List String)
  | [] => return ([], [])
  | argument :: rest =>
    match argument.toList with
    | ['-', '-'] => return ([], rest)
    | '-' :: c :: more => do
      match (c :: more).find? (!allowed.toList.contains ·) with
      | some bad => Interpreting.fail ("Illegal option -" ++ bad.toString)
      | none =>
        let (letters, rest) ← takeOptions allowed rest
        return (c :: more ++ letters, rest)
    | _ => return ([], argument :: rest)

/-- Prints the variables that meet a condition, in the order of their names. -/
def printVariables (lead : String) (meets : Variable → Bool) : Interpreting Unit := do
  let chosen := (← get).bindings.filter meets
  let sorted := chosen.mergeSort fun a b => decide (a.name ≤ b.name)
  let lines := sorted.map fun v =>
    lead ++ v.name ++ (match v.value with
      | some s => "=" ++ inQuotes s
      | none => "") ++ "\n"
  Interpreting.printText (String.join lines)

def markVariables (command : String) (meets : Variable → Bool) (mark : Variable → Variable)
    (arguments : List String) : Interpreting Unit := do
  let (letters, names) ← takeOptions "p" arguments
  if letters.contains 'p' || names.isEmpty then
    printVariables (command ++ " ") meets
  else
    names.forM fun argument => do
      let (name, value) := splitSetting argument
      checkName name
      match value with
      | some s => Interpreting.assign name s
      | none => pure ()
      modify fun st => st.put (mark ((st.named? name).getD ⟨name, none, false, false⟩))

def exportVariables (arguments : List String) : Interpreting Unit :=
  markVariables "export" (·.exported) (fun v => { v with exported := true }) arguments

def protectVariables (arguments : List String) : Interpreting Unit :=
  markVariables "readonly" (·.readOnly) (fun v => { v with readOnly := true }) arguments

def makeLocal (arguments : List String) : Interpreting Unit := do
  if (← get).calls = 0 then Interpreting.fail "not in a function"
  arguments.forM fun argument => do
    let (name, value) := splitSetting argument
    if name ≠ "-" then
      checkName name
      Interpreting.hide name
      match value with
      | some s => Interpreting.assign name s
      | none => pure ()

def unsetNames (arguments : List String) : Interpreting Unit := do
  let (letters, names) ← takeOptions "vf" arguments
  names.forM fun name => do
    if letters.getLast? = some 'f' then
      modify fun st => { st with functions := st.functions.filter (·.1 ≠ name) }
    else
      checkName name
      Interpreting.unassign name

def optionNames : List (String × Char) :=
  [("errexit", 'e'), ("noglob", 'f'), ("ignoreeof", 'I'), ("interactive", 'i'), ("monitor", 'm'),
    ("noexec", 'n'), ("stdin", 's'), ("xtrace", 'x'), ("verbose", 'v'), ("vi", 'V'),
    ("emacs", 'E'), ("noclobber", 'C'), ("allexport", 'a'), ("notify", 'b'), ("nounset", 'u'),
    ("privileged", 'p'), ("nolog", 'L'), ("debug", 'D')]

def setOption (on : Bool) (letter : Char) : Interpreting Unit := modify fun st =>
  let others := st.options.filter (· ≠ letter)
  { st with options := if on then letter :: others else others }

def printOptions : Interpreting Unit := do
  let st ← get
  let lines := optionNames.map fun (name, letter) =>
    let blanks := String.ofList (List.replicate (16 - name.length) ' ')
    name ++ blanks ++ (if st.has letter then "on" else "off") ++ "\n"
  Interpreting.printText ("Current option settings\n" ++ String.join lines)

/-- What the arguments of a shell say besides its options. -/
structure ShellArguments where
  rest : List String
  /-- Whether they are new arguments for the script. -/
  isGiven : Bool
  /-- Whether the first of them is the script itself. -/
  isDirect : Bool

def setNamed (on : Bool) (name : String) : Interpreting Unit := do
  match optionNames.lookup name with
  | some letter => setOption on letter
  | none => Interpreting.fail ("Illegal option -o " ++ name)

/-- Sets the options that have letters, or takes them back. The result has the arguments behind
them, and whether one of the letters says that the script is an argument. -/
def setLetters (isStart on : Bool) : List Char → List String → Interpreting (List String × Bool)
  | [], rest => return (rest, false)
  | c :: letters, rest => do
    if isStart && c = 'c' then return ((← setLetters isStart on letters rest).1, true)
    else if isStart && c = 'l' then setLetters isStart on letters rest
    else if c = 'o' then
      match rest with
      | name :: behind =>
        setNamed on name
        setLetters isStart on letters behind
      | [] =>
        printOptions
        setLetters isStart on letters []
    else
      if !optionLetters.toList.contains c then Interpreting.fail ("Illegal option -" ++ c.toString)
      setOption on c
      setLetters isStart on letters rest

/-- Reads so many of the arguments of a shell that starts, or of the command for options. -/
def readOptions (isStart : Bool) : (limit : Nat) → List String → Interpreting ShellArguments
  | 0, rest => return ⟨rest, true, false⟩
  | _, [] => return ⟨[], false, false⟩
  | _ + 1, "--" :: rest => return ⟨rest, true, false⟩
  | limit + 1, argument :: rest => do
    match argument.toList with
    | ['-'] =>
      if !isStart then
        setOption false 'x'
        setOption false 'v'
      return ⟨rest, !rest.isEmpty, false⟩
    | sign :: letters =>
      if sign = '-' || sign = '+' then
        let (rest, isDirect) ← setLetters isStart (sign = '-') letters rest
        let others ← readOptions isStart limit rest
        return { others with isDirect := others.isDirect || isDirect }
      else return ⟨argument :: rest, true, false⟩
    | [] => return ⟨argument :: rest, true, false⟩

def setAll (arguments : List String) : Interpreting Unit := do
  if arguments.isEmpty then printVariables "" fun v => v.value.isSome
  else
    let given ← readOptions false (arguments.length + 1) arguments
    if given.isGiven then modify fun st => { st with
      arguments := given.rest, optionIndex := 1, optionOffset := 0 }

/-- The number that an argument of a command of the shell stands for. -/
def countOf (s : String) : Interpreting Nat := do
  match decimal? s with
  | some n =>
    if n ≤ 2147483647 then return n else Interpreting.fail ("Illegal number: " ++ s)
  | none => Interpreting.fail ("Illegal number: " ++ s)

def shiftArguments (arguments : List String) : Interpreting Unit := do
  let n ← match arguments with
    | [] => pure 1
    | s :: _ => countOf s
  let st ← get
  if st.arguments.length < n then Interpreting.fail "can't shift that many"
  set { st with arguments := st.arguments.drop n, optionIndex := 1, optionOffset := 0 }

end FlashImage.Shell
