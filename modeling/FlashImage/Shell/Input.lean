import FlashImage.Shell.Setting

/-!
The commands of the shell that read: lines of the input into variables, and options of arguments.
-/

set_option autoImplicit false
set_option relaxedAutoImplicit false

namespace FlashImage.Shell

/-- A character of a line that has been read. Separators that are no blanks stand for themselves. -/
inductive LineChar
  | other (c : Char)
  | blank (c : Char)
  | separator (c : Char)
  deriving DecidableEq, Repr

def LineChar.char : LineChar → Char
  | .other c => c
  | .blank c => c
  | .separator c => c

def LineChar.isOther : LineChar → Bool
  | .other _ => true
  | _ => false

def LineChar.isBlank : LineChar → Bool
  | .blank _ => true
  | _ => false

def skipSeparator (s : List LineChar) : List LineChar :=
  match s.dropWhile (·.isBlank) with
  | .separator _ :: rest => rest.dropWhile (·.isBlank)
  | rest => rest

/-- The last field of a line: all that is left, without the blanks at its end. A separator behind a
single field belongs to it no more. -/
def lastField (s : List LineChar) : List LineChar :=
  let field := s.takeWhile (·.isOther)
  if (skipSeparator (s.drop field.length)).isEmpty then field
  else (s.reverse.dropWhile (·.isBlank)).reverse

/-- Splits a line into so many fields. Those that are missing are empty. -/
def splitLine : (count : Nat) → List LineChar → List (List LineChar)
  | 0, _ => []
  | 1, s => [lastField s]
  | count + 1, s =>
    let field := s.takeWhile (·.isOther)
    field :: splitLine count (skipSeparator (s.drop field.length))

/-- A line of the input that has been read. -/
structure ReadLine where
  chars : List LineChar
  /-- The number of bytes that have been read. -/
  size : Nat
  isClosed : Bool

/-- Reads a line. A backslash takes the meaning from the next character, and joins lines, unless it
stands for itself. -/
def readLine (raw : Bool) (separators : List Char) : List Char → ReadLine
  | [] => ⟨[], 0, false⟩
  | '\n' :: _ => ⟨[], 1, true⟩
  | '\\' :: c :: rest =>
    if raw then push (classify '\\') 1 (readLine raw separators (c :: rest))
    else if c = '\n' then
      let r := readLine raw separators rest
      { r with size := r.size + 2 }
    else push (.other c) 2 (readLine raw separators rest)
  | c :: rest => push (classify c) 1 (readLine raw separators rest)
where
  classify (c : Char) : LineChar :=
    if !separators.contains c then .other c
    else if c = ' ' ∨ c = '\t' then .blank c
    else .separator c
  push (c : LineChar) (size : Nat) (r : ReadLine) : ReadLine :=
    { r with chars := if c.char = '\x00' then r.chars else c :: r.chars, size := r.size + size }

def readVariables (arguments : List String) : Interpreting Unit := do
  let (raw, names) ← options arguments
  if names.isEmpty then Interpreting.fail "arg count"
  names.forM checkName
  let st ← get
  let input :=
    match st.process.descriptors.lookup 0 with
    | some id => st.process.world.unread id
    | none => []
  let line := readLine raw st.separators (ByteText.ofBytes input).toList
  match st.process.descriptors.lookup 0 with
  | some id => set (st.withWorld (st.process.world.advance id line.size))
  | none => pure ()
  let fields := splitLine names.length (line.chars.dropWhile (·.isBlank))
  (names.zip fields).forM fun (name, field) =>
    Interpreting.assign name (String.ofList (field.map (·.char)))
  Interpreting.setStatus (if line.isClosed then 0 else 1)
where
  options : List String → Interpreting (Bool × List String)
    | [] => return (false, [])
    | "--" :: rest => return (false, rest)
    | "-p" :: _ :: rest => options rest
    | argument :: rest =>
      match argument.toList with
      | ['-', 'r'] => do return (true, (← options rest).2)
      | '-' :: c :: _ => Interpreting.fail ("Illegal option -" ++ c.toString)
      | _ => return (false, argument :: rest)

/-- What looking for the next option gives. -/
inductive NextOption
  | ending
  | known (letter : Char) (value : String)
  | unknown (letter : Char)
  | missing (letter : Char)
  deriving DecidableEq, Repr

def optionKind? (allowed : List Char) (letter : Char) : Option Bool :=
  match allowed with
  | [] => none
  | c :: rest =>
    if c = letter ∧ c ≠ ':' then some (rest.head? = some ':') else optionKind? rest letter

/-- Looks for the next option among arguments, from an argument on and a letter in the argument
before it. The result has where to go on. -/
def nextOption (allowed : List Char) (arguments : List String) (index offset : Nat) :
    NextOption × Nat × Nat :=
  let letters := if offset = 0 then [] else ((arguments.getD (index - 1) "").toList.drop offset)
  match letters, arguments[index]?.map String.toList with
  | c :: rest, _ => option c rest index offset
  | [], some ['-', '-'] => (.ending, index + 1, 0)
  | [], some ('-' :: c :: rest) => option c rest (index + 1) 1
  | [], _ => (.ending, index, 0)
where
  option (c : Char) (rest : List Char) (index offset : Nat) : NextOption × Nat × Nat :=
    let next := if rest.isEmpty then 0 else offset + 1
    match optionKind? allowed c with
    | none => (.unknown c, index, next)
    | some false => (.known c "", index, next)
    | some true =>
      match rest, arguments[index]? with
      | _ :: _, _ => (.known c (String.ofList rest), index, 0)
      | [], some value => (.known c value, index + 1, 0)
      | [], none => (.missing c, index, 0)

def getOption (words : List String) : Interpreting Unit := do
  match words with
  | allowed :: name :: given =>
    let st ← get
    let arguments := if given.isEmpty then st.arguments else given
    let isBeyond := arguments.length + 1 < st.optionIndex
    let (index, offset) := if isBeyond then (0, 0) else (st.optionIndex - 1, st.optionOffset)
    let quiet := allowed.startsWith ":"
    let (option, index, offset) := nextOption allowed.toList arguments index offset
    let shown ← match option with
      | .ending => pure "?"
      | .known c value => do
        Interpreting.assign "OPTARG" value
        pure c.toString
      | .unknown c => refuse quiet c "?" ("Illegal option -" ++ c.toString)
      | .missing c =>
        refuse quiet c (if quiet then ":" else "?") ("No arg for -" ++ c.toString ++ " option")
    Interpreting.putValue "OPTIND" (toString (index + 1))
    Interpreting.assign name shown
    modify fun st => { st with optionIndex := index + 1, optionOffset := offset }
    Interpreting.setStatus (if option = .ending then 1 else 0)
  | _ => Interpreting.fail "Usage: getopts optstring var [arg...]"
where
  refuse (quiet : Bool) (c : Char) (shown wording : String) : Interpreting String := do
    if quiet then Interpreting.assign "OPTARG" c.toString
    else
      let _ ← Interpreting.runProgram "" (Program.printTo 2 (ByteText.toBytes (wording ++ "\n")))
      Interpreting.unassign "OPTARG"
    return shown

end FlashImage.Shell
