import FlashImage.Shell.Records.Script
import FlashImage.Shell.Records.Lexeme
import FlashImage.Shell.Records.Table
import FlashImage.Shell.Utility.Basic

/-!
The machine that runs scripts for records: names, the current record with its fields, and what is
read and printed.

A change of a field changes the record, and a change of the record splits it into fields again.
-/

set_option autoImplicit false
set_option relaxedAutoImplicit false

namespace FlashImage.Shell.Records

/-- What a name stands for. -/
inductive Meaning
  | value (v : Value)
  | table (number : Nat)
  /-- Nothing so far. It may become the table with this number. -/
  | free (number : Nat)

/-- What is printed to something that has been opened. -/
structure Outlet where
  name : String
  kind : OutletKind
  /-- The number of the open file, or what a command is going to read, the last part first. -/
  target : Nat ⊕ List String

/-- The state of a machine. -/
structure Machine where
  process : Process
  starter : Starter
  script : Script
  names : List (String × Meaning)
  /-- The names of the functions that are being run, the innermost first. -/
  frames : List (List (String × Meaning))
  tables : Array Table
  record : Value
  fields : Array Value
  /-- The rules for ranges that have started and not ended. -/
  openRanges : List Nat
  /-- What is left of the file that is being read. -/
  input : Option (List Char)
  /-- The number of the next argument that may be a file. -/
  nextArgument : Nat
  /-- Whether a file has been read. -/
  hasRead : Bool
  readers : List (String × List Char)
  outlets : List Outlet
  /-- What has been printed and not written, the last part first. -/
  printed : List String
  printedSize : Nat
  status : Nat
  seed : Value

/-- Why what is being run stops. -/
inductive Halt
  | next
  | nextFile
  | exit
  | return (v : Value)
  | leave
  | again
  | ended (exit : Exit)

abbrev Run (α : Type) := ExceptT Halt (StateM Machine) α

namespace Run

def lift {α : Type} (program : Program α) : Run α := fun m =>
  match program m.process with
  | (.ok a, p) => (.ok a, { m with process := p })
  | (.error exit, p) => (.error (.ended exit), { m with process := p })

def failure : Nat := 2

def refuse {α : Type} (wording : String) : Run α := do
  lift (Program.complain wording)
  throw (.ended (.status failure))

/-- Ends the script after a complaint that tells the current record. -/
def refuseAtRecord {α : Type} (wording : String) : Run α := do
  let m ← get
  let shown (name : String) : String :=
    match m.names.lookup name with
    | some (.value v) => v.toText "%.6g"
    | _ => ""
  refuse ("run time error: " ++ wording ++ "\n\tFILENAME=\"" ++ shown "FILENAME" ++ "\" FNR=" ++
    shown "FNR" ++ " NR=" ++ shown "NR")

def iterate {α : Type} (step : Run (Option α)) : (limit : Nat) → Run α
  | 0 => throw (.ended (.status failure))
  | limit + 1 => fun m =>
    match step m with
    | (.ok (some a), m) => (.ok a, m)
    | (.ok none, m) => iterate step limit m
    | (.error halt, m) => (.error halt, m)

def stepLimit : Nat := 1000000000

def meaning? (name : String) : Run (Option Meaning) := do
  let m ← get
  match (m.frames.head?).bind (·.lookup name) with
  | some meaning => return some meaning
  | none => return m.names.lookup name

def setMeaning (name : String) (meaning : Meaning) : Run Unit := modify fun m =>
  let replaced (all : List (String × Meaning)) : List (String × Meaning) :=
    if (all.lookup name).isSome then
      all.map fun (n, old) => if n = name then (n, meaning) else (n, old)
    else (name, meaning) :: all
  match m.frames with
  | frame :: rest =>
    if (frame.lookup name).isSome then { m with frames := replaced frame :: rest }
    else { m with names := replaced m.names }
  | [] => { m with names := replaced m.names }

def value (name : String) : Run Value := do
  match ← meaning? name with
  | some (.value v) => return v
  | some (.table _) => refuse ("illegal reference to array " ++ name)
  | _ => return .unset

def textOf (name : String) : Run String := do
  return (← value name).toText "%.6g"

def format : Run String := textOf "CONVFMT"

def text (v : Value) : Run String := do
  match v with
  | .number _ => return v.toText (← format)
  | v => return v.toText ""

/-- Adds a table. The result is its number. -/
def addTable (t : Table) : Run Nat := do
  let m ← get
  set { m with tables := m.tables.push t }
  return m.tables.size

def tableNumber (name : String) : Run Nat := do
  match ← meaning? name with
  | some (.table n) => return n
  | some (.free n) =>
    setMeaning name (.table n)
    return n
  | some (.value .unset) | none =>
    let n ← addTable .empty
    setMeaning name (.table n)
    return n
  | some (.value _) => refuse ("illegal reference to variable " ++ name)

def table (n : Nat) : Run Table := do return (← get).tables.getD n .empty

def setTable (n : Nat) (t : Table) : Run Unit := modify fun m =>
  { m with tables := m.tables.setIfInBounds n t }

def setPlain (name : String) (v : Value) : Run Unit := do
  match ← meaning? name with
  | some (.table _) => refuse ("illegal reference to array " ++ name)
  | _ => setMeaning name (.value v)

def isBlankSeparator (separator : String) : Bool := separator = " "

/-- Splits a text at what a pattern fits, leaving out places where it fits nothing. -/
def splitAtPattern (r : Regex) (s : String) : List String :=
  let chars := s.toList.toArray
  let subject : Subject := ⟨chars, false, false⟩
  let piece (i j : Nat) : String := String.ofList (chars.extract i j).toList
  let rec go : (limit : Nat) → (start position : Nat) → List String
    | 0, start, _ => [piece start chars.size]
    | limit + 1, start, position =>
      match r.find? subject position with
      | none => [piece start chars.size]
      | some (i, spot) =>
        if spot.position = i then
          if chars.size ≤ i then [piece start chars.size] else go limit start (i + 1)
        else piece start i :: go limit spot.position spot.position
  go (chars.size + 2) 0 0

def splitText (separator s : String) : Run (List String) := do
  if s.isEmpty then return []
  if isBlankSeparator separator then
    return (s.toList.splitBy fun c d => isBlank c == isBlank d).filterMap fun part =>
      if part.head?.any isBlank then none else some (String.ofList part)
  else if separator.isEmpty then return s.toList.map Char.toString
  else if separator.length = 1 then
    return s.splitOn separator
  else
    match readPattern separator with
    | .ok r => return splitAtPattern r s
    | .error wording => refuse (patternRefusal wording separator)

def noteFieldCount : Run Unit := do
  setMeaning "NF" (.value (.number (← get).fields.size.toFloat))

def setRecord (v : Value) : Run Unit := do
  let s ← text v
  let separator ← textOf "FS"
  let isParagraph := (← textOf "RS").isEmpty
  let parts ←
    if isParagraph && !isBlankSeparator separator then do
      let lines := s.splitOn "\n"
      let parts ← lines.mapM (splitText separator)
      pure parts.flatten
    else splitText separator s
  modify fun m => { m with record := v, fields := (parts.map Value.outside).toArray }
  noteFieldCount

def joinFields : Run Unit := do
  let m ← get
  let parts ← m.fields.toList.mapM text
  let separator ← textOf "OFS"
  modify fun m => { m with record := .outside (separator.intercalate parts) }

def fieldLimit : Nat := 1000000

def setFieldCount (n : Nat) : Run Unit := do
  if fieldLimit < n then refuse "field index is too large"
  modify fun m =>
    let kept := m.fields.extract 0 n
    { m with fields := kept ++ Array.replicate (n - kept.size) (.outside "") }
  noteFieldCount
  joinFields

def field (n : Int) : Run Value := do
  if n < 0 then refuseAtRecord ("negative field index $" ++ toString n)
  let m ← get
  if n = 0 then return m.record
  else return m.fields.getD (n.toNat - 1) .unset

def setField (n : Int) (v : Value) : Run Unit := do
  if n < 0 then refuseAtRecord ("negative field index $" ++ toString n)
  if n = 0 then setRecord v
  else
    let count := n.toNat
    if (← get).fields.size < count then setFieldCount count
    modify fun m => { m with fields := m.fields.setIfInBounds (count - 1) v }
    joinFields

def setValue (name : String) (v : Value) : Run Unit := do
  if name = "NF" then setFieldCount (wholeOf v.toNumber).toNat else setPlain name v

def count (name : String) : Run Unit := do
  setPlain name (.number ((← value name).toNumber + 1))

def takeRecord (separator : String) (s : List Char) : Run (Option (List Char × List Char)) := do
  match separator.toList with
  | [] =>
    let s := s.dropWhile (· = '\n')
    if s.isEmpty then return none
    let (record, rest) := paragraph (s.length + 1) s []
    return some (record, rest.dropWhile (· = '\n'))
  | [c] =>
    if s.isEmpty then return none
    let record := s.takeWhile (· ≠ c)
    return some (record, s.drop (record.length + 1))
  | _ =>
    if s.isEmpty then return none
    match readPattern separator with
    | .error wording => refuse (patternRefusal wording separator)
    | .ok r =>
      let chars := s.toArray
      match r.find? ⟨chars, false, false⟩ 0 with
      | some (i, spot) =>
        if spot.position = i then return some (s, [])
        else return some ((chars.extract 0 i).toList, (chars.extract spot.position chars.size).toList)
      | none => return some (if s.getLast? = some '\n' then s.dropLast else s, [])
where
  paragraph : (limit : Nat) → List Char → (done : List Char) → List Char × List Char
    | 0, s, done => (done.reverse, s)
    | _ + 1, [], done => (done.reverse, [])
    | _ + 1, ['\n'], done => (done.reverse, [])
    | _ + 1, '\n' :: '\n' :: rest, done => (done.reverse, rest)
    | limit + 1, c :: rest, done => paragraph limit rest (c :: done)

def assignArgument (name value : String) : Run Unit :=
  setValue name (.outside (String.ofList (unescaped (value.length + 1) value.toList)))

def assignment? (s : String) : Option (String × String) :=
  let name := s.toList.takeWhile fun c => startsName c || c.isDigit
  match s.toList.drop name.length with
  | '=' :: value =>
    if name.head?.any startsName then some (String.ofList name, String.ofList value) else none
  | _ => none

/-- Opens the next file among the arguments. The result says whether there is one. -/
def openNext : (limit : Nat) → Run Bool
  | 0 => return false
  | limit + 1 => do
    let m ← get
    let number := m.nextArgument
    let total := (wholeOf (← value "ARGC").toNumber).toNat
    if total ≤ number then
      if m.hasRead then return false
      openFile "-" "-"
    else
      set { m with nextArgument := number + 1 }
      let arguments ← table (← tableNumber "ARGV")
      let argument ← text (arguments.values.getD (toString number) .unset)
      match assignment? argument with
      | some (name, value) =>
        assignArgument name value
        openNext limit
      | none => if argument.isEmpty then openNext limit else openFile argument argument
where
  openFile (path shown : String) : Run Bool := do
    match ← lift (readOperand? path) with
    | .ok b =>
      modify fun m => { m with input := some (ByteText.ofBytes b).toList, hasRead := true }
      setPlain "FILENAME" (.text shown)
      setPlain "FNR" (.number 0)
      return true
    | .error fault =>
      refuse ("cannot open \"" ++ path ++ "\" (" ++ faultWording fault ++ ")")

def readRecord? : (limit : Nat) → Run (Option String)
  | 0 => return none
  | limit + 1 => do
    match (← get).input with
    | none => if ← openNext ((← get).nextArgument + 10000) then readRecord? limit else return none
    | some s =>
      match ← takeRecord (← textOf "RS") s with
      | some (record, rest) =>
        modify fun m => { m with input := some rest }
        count "NR"
        count "FNR"
        return some (String.ofList record)
      | none =>
        modify fun m => { m with input := none }
        readRecord? limit

def flush : Run Unit := do
  let m ← get
  if !m.printed.isEmpty then
    set { m with printed := [], printedSize := 0 }
    lift (Program.printText (String.join m.printed.reverse))

/-- The number of characters that are kept before they are written. -/
def printedLimit : Nat := 65536

def print (s : String) : Run Unit := do
  modify fun m =>
    { m with printed := s :: m.printed, printedSize := m.printedSize + s.length }
  if printedLimit < (← get).printedSize then flush

/-- Runs a command of the shell, with other descriptors in front of those of the process. -/
def runCommand (shell : String) (descriptors : List (Nat × Nat)) (command : String) : Run Nat := do
  let m ← get
  let before := m.process.descriptors
  let program : Program Nat := do
    modify fun p => { p with descriptors := descriptors ++ p.descriptors }
    let result ← m.starter shell ["-c", command]
    modify fun p => { p with descriptors := before }
    match result with
    | .ok exit =>
      return match exit with
        | .status n => n
        | .signal n => 256 + n
    | .error _ => return 127
  lift program

/-- Closes an outlet. The result is the status of its command. -/
def closeOutlet (o : Outlet) : Run Nat := do
  modify fun m => { m with outlets := m.outlets.filter (·.name ≠ o.name) }
  match o.target with
  | .inl _ => return 0
  | .inr parts =>
    let m ← get
    let (id, w) := m.process.world.addBytes (ByteText.toBytes (String.join parts.reverse))
    set { m with process := { m.process with world := w } }
    runCommand "/bin/sh" [(0, id)] o.name

def openOutlet (kind : OutletKind) (name : String) : Run Outlet := do
  match (← get).outlets.find? (·.name = name) with
  | some o => return o
  | none =>
    let target ← match kind with
      | .command => do
        flush
        pure (.inr [])
      | kind => do
        let mode : OpenMode := if kind = .file then .write else .append
        match ← lift (Program.openPath name mode) with
        | .ok id => pure (.inl id)
        | .error fault =>
          refuse ("cannot open \"" ++ name ++ "\" (" ++ faultWording fault ++ ")")
    let o : Outlet := ⟨name, kind, target⟩
    modify fun m => { m with outlets := o :: m.outlets }
    return o

def printTo (kind : OutletKind) (name s : String) : Run Unit := do
  if kind ≠ .command ∧ name = "/dev/stdout" then print s
  else if kind ≠ .command ∧ name = "/dev/stderr" then
    lift (Program.printTo 2 (ByteText.toBytes s))
  else
    let o ← openOutlet kind name
    match o.target with
    | .inr parts =>
      modify fun m => { m with
        outlets := m.outlets.map fun p =>
          if p.name = name then { p with target := .inr (s :: parts) } else p }
    | .inl id =>
      let m ← get
      match m.process.world.write id (ByteText.toBytes s) with
      | .ok w => set { m with process := { m.process with world := w } }
      | .error fault => refuse ("write failure (" ++ fault.message ++ ")")

def closeAll : (limit : Nat) → Run Unit
  | 0 => return ()
  | limit + 1 => do
    match (← get).outlets with
    | [] => return ()
    | o :: _ =>
      let _ ← closeOutlet o
      closeAll limit

/-- The next record of a file or of the output of a command, which is opened if it is not open.
There is none at all if that is not possible. -/
def readFrom? (name : String) (load : Run (Option String)) : Run (Option (Option String)) := do
  let left? ← match (← get).readers.lookup name with
    | some left => pure (some left)
    | none => do
      match ← load with
      | none => pure none
      | some s =>
        modify fun m => { m with readers := (name, s.toList) :: m.readers }
        pure (some s.toList)
  match left? with
  | none => return none
  | some left =>
    match ← takeRecord (← textOf "RS") left with
    | none => return some none
    | some (record, rest) =>
      modify fun m => { m with
        readers := m.readers.map fun (n, old) => if n = name then (n, rest) else (n, old) }
      return some (some (String.ofList record))

def loadFile (path : String) : Run (Option String) := do
  match ← lift (readOperand? path) with
  | .ok b => return some (ByteText.ofBytes b)
  | .error _ => return none

def loadCommand (command : String) : Run (Option String) := do
  flush
  let m ← get
  let (pipe, id, w) := m.process.world.addPipe
  set { m with process := { m.process with world := w } }
  let _ ← runCommand "/bin/sh" [(1, id)] command
  let m ← get
  let (b, w) := m.process.world.takePipe pipe id
  set { m with process := { m.process with world := w } }
  return some (ByteText.ofBytes b)

/-- Closes what has a name. The result is its status, or less than zero if nothing has the name. -/
def close (name : String) : Run Int := do
  let m ← get
  match m.outlets.find? (·.name = name) with
  | some o => return (← closeOutlet o)
  | none =>
    if (m.readers.lookup name).isSome then
      set { m with readers := m.readers.filter (·.1 ≠ name) }
      return 0
    else return -1

end Run
end FlashImage.Shell.Records
