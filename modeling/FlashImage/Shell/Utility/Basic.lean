import FlashImage.Shell.Process

/-!
What the small programs of the system have in common: how they are started, and how their arguments
are read.

Options may stand anywhere before two dashes. A long name may be cut where it stays the only one.
-/

set_option autoImplicit false
set_option relaxedAutoImplicit false

namespace FlashImage.Shell

/-- Starts another program with arguments, and waits for its end. -/
abbrev Starter := (program : String) → (arguments : List String) → Program (Except FileFault Exit)

abbrev Utility := Starter → (arguments : List String) → Program Unit

/-- An option of a program. -/
structure OptionSpec where
  letter : Char
  name : String
  takesValue : Bool

/-- The options that a program has been given, in their order, and the other arguments. -/
structure Given where
  options : List (Char × String)
  operands : List String

def Given.has (g : Given) (letter : Char) : Bool := g.options.any (·.1 = letter)

def Given.value? (g : Given) (letter : Char) : Option String :=
  (g.options.reverse.find? (·.1 = letter)).map (·.2)

namespace Program

/-- What programs say about their arguments before they point to the help, by their names. -/
def usageLines : List (String × String) := [("grep", "[OPTION]... PATTERNS [FILE]...")]

def pointToHelp : Program Unit := do
  let name := (← get).speaker
  let usage := match usageLines.lookup ((name.splitOn "/").getLastD "") with
    | some words => "Usage: " ++ name ++ " " ++ words ++ "\n"
    | none => ""
  printTo 2 (ByteText.toBytes (usage ++ "Try '" ++ name ++ " --help' for more information.\n"))

def refuseUsage {α : Type} (status : Nat) (wording : String) : Program α := do
  complain wording
  pointToHelp
  finish status

end Program

def namedOptions (specs : List OptionSpec) (name : String) : List OptionSpec :=
  match specs.filter (·.name = name) with
  | [] => specs.filter fun o => !o.name.isEmpty && o.name.startsWith name
  | exact => exact

/-- Reads a long option. The result has the arguments behind it. -/
def readLongOption (specs : List OptionSpec) (status : Nat) (text : List Char)
    (rest : List String) : Program ((Char × String) × List String) := do
  let name := text.takeWhile (· ≠ '=')
  let shown := "'--" ++ String.ofList name ++ "'"
  match namedOptions specs (String.ofList name), text.drop name.length, rest with
  | [], _, _ => Program.refuseUsage status ("unrecognized option '--" ++ String.ofList text ++ "'")
  | [o], _ :: value, rest =>
    if o.takesValue then return ((o.letter, String.ofList value), rest)
    else Program.refuseUsage status ("option '--" ++ o.name ++ "' doesn't allow an argument")
  | [o], [], value :: behind =>
    if o.takesValue then return ((o.letter, value), behind)
    else return ((o.letter, ""), rest)
  | [o], [], [] =>
    if o.takesValue then
      Program.refuseUsage status ("option '--" ++ o.name ++ "' requires an argument")
    else return ((o.letter, ""), [])
  | several, _, _ =>
    let names := several.map fun o => " '--" ++ o.name ++ "'"
    Program.refuseUsage status
      ("option " ++ shown ++ " is ambiguous; possibilities:" ++ String.join names)

/-- Reads the letters of an argument. The result has the arguments behind it. -/
def readShortOptions (specs : List OptionSpec) (status : Nat) : (letters : List Char) →
    (rest : List String) → Program (List (Char × String) × List String)
  | [], rest => return ([], rest)
  | c :: letters, rest => do
    match specs.find? (·.letter = c) with
    | none => Program.refuseUsage status ("invalid option -- '" ++ c.toString ++ "'")
    | some o =>
      if o.takesValue then
        match letters, rest with
        | [], [] =>
          Program.refuseUsage status ("option requires an argument -- '" ++ c.toString ++ "'")
        | [], value :: rest => return ([(c, value)], rest)
        | letters, rest => return ([(c, String.ofList letters)], rest)
      else
        let (others, rest) ← readShortOptions specs status letters rest
        return ((c, "") :: others, rest)

/-- Reads arguments, where the first operand ends the options or not. -/
def readGiven (specs : List OptionSpec) (status : Nat) (strict : Bool) : (limit : Nat) →
    List String → Program Given
  | 0, _ => return ⟨[], []⟩
  | _ + 1, [] => return ⟨[], []⟩
  | _ + 1, "--" :: rest => return ⟨[], rest⟩
  | limit + 1, argument :: rest => do
    match argument.toList with
    | '-' :: '-' :: text =>
      let (option, rest) ← readLongOption specs status text rest
      let g ← readGiven specs status strict limit rest
      return { g with options := option :: g.options }
    | '-' :: c :: letters =>
      let (options, rest) ← readShortOptions specs status (c :: letters) rest
      let g ← readGiven specs status strict limit rest
      return { g with options := options ++ g.options }
    | _ =>
      if strict then return ⟨[], argument :: rest⟩
      else
        let g ← readGiven specs status strict limit rest
        return { g with operands := argument :: g.operands }

def givenTo (specs : List OptionSpec) (arguments : List String) : Program Given :=
  readGiven specs 1 false (arguments.length + 1) arguments

/-- Reads the arguments of a program whose first operand ends the options. -/
def givenStrictlyTo (specs : List OptionSpec) (arguments : List String) : Program Given :=
  readGiven specs 1 true (arguments.length + 1) arguments

def flags (letters : String) : List OptionSpec := letters.toList.map fun c => ⟨c, "", false⟩

def settings (letters : String) : List OptionSpec := letters.toList.map fun c => ⟨c, "", true⟩

def shownPath (path : String) : String := "'" ++ path ++ "'"

/-- A path as complaints show it where quotes are only put if there is need. -/
def plainPath (path : String) : String :=
  let needs (c : Char) : Bool := " '\"$&*()<>?[]\\`|;\x7b\x7d~#=!^\t\n".toList.contains c
  if path.isEmpty || path.toList.any needs then shownPath path else path

def countFactors : List (String × Nat) :=
  let powers (names : List String) (base : Nat) : List (String × Nat) :=
    names.zipIdx.map fun (name, i) => (name, Nat.pow base (i + 1))
  [("", 1), ("b", 512), ("c", 1), ("w", 2), ("k", 1024)] ++
    powers ["K", "M", "G", "T", "P", "E"] 1024 ++ powers ["kB", "MB", "GB", "TB", "PB", "EB"] 1000 ++
    powers ["KiB", "MiB", "GiB", "TiB", "PiB", "EiB"] 1024 ++ [("KB", 1000)]

/-- The number that a text stands for, with letters for factors behind its digits. -/
def readCount? (factors : List (String × Nat)) (s : String) : Option Nat :=
  let digits := s.toList.takeWhile Char.isDigit
  let letters := String.ofList (s.toList.drop digits.length)
  match decimal? (String.ofList digits), factors.lookup letters with
  | some n, some factor => some (n * factor)
  | none, some factor => if letters.isEmpty then none else some factor
  | _, none => none

/-- What an operand stands for: the input, or what a path leads to. -/
def readOperand? (path : String) : Program (Except FileFault Bytes) := do
  if path = "-" then
    if (← Program.inputEndpoint) = some .directory then return .error .isDirectory
    return .ok (← Program.takeInput)
  else Program.readPath path

/-- What operands stand for, one after another, where no operands stand for the input. Those that
cannot be read are complained about. -/
def readOperands (paths : List String) (use : String → Bytes → Program Unit) : Program Unit := do
  let paths := if paths.isEmpty then ["-"] else paths
  paths.forM fun path => do
    match ← readOperand? path with
    | .ok b => use path b
    | .error fault => Program.object (plainPath path ++ ": " ++ faultWording fault)

def readAll (paths : List String) : Program Bytes := do
  let paths := if paths.isEmpty then ["-"] else paths
  let parts ← paths.mapM fun path => do
    match ← readOperand? path with
    | .ok b => return b
    | .error fault =>
      Program.object (plainPath path ++ ": " ++ faultWording fault)
      return []
  return parts.flatten

def linesOf (b : Bytes) : List Bytes := go b []
where
  go : Bytes → Bytes → List Bytes
    | [], [] => []
    | [], line => [line.reverse]
    | x :: rest, line => if x = 10 then line.reverse :: go rest [] else go rest (x :: line)

def textLines (b : Bytes) : List String := (linesOf b).map ByteText.ofBytes

def printLines (lines : List String) : Program Unit :=
  Program.printText (String.join (lines.map (· ++ "\n")))

/-- The lines of bytes whose last line ends like the others are put together again. -/
theorem linesOf_single (b : Bytes) (h : ∀ x ∈ b, x ≠ 10) : linesOf (b ++ [10]) = [b] := by
  have go (b line : Bytes) (h : ∀ x ∈ b, x ≠ 10) :
      linesOf.go (b ++ [10]) line = [line.reverse ++ b] := by
    induction b generalizing line with
    | nil => simp [linesOf.go]
    | cons x rest ih =>
      have hx : x ≠ 10 := h x List.mem_cons_self
      have hrest : ∀ y ∈ rest, y ≠ 10 := fun y hy => h y (List.mem_cons_of_mem x hy)
      simp [linesOf.go, hx, ih (x :: line) hrest]
  simpa [linesOf] using go b [] h

end FlashImage.Shell
