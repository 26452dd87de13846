import FlashImage.Shell.Edit.Reader
import FlashImage.Shell.Utility.Content
import FlashImage.Shell.Utility.Entry

/-!
How the editor of lines runs its commands.

Each line is put into a buffer, the commands work on it, and then it is printed. A second buffer
holds what commands keep from line to line.
-/

set_option autoImplicit false
set_option relaxedAutoImplicit false

namespace FlashImage.Shell

/-- A line of the input, with the name of its file. -/
structure EditLine where
  text : String
  number : Nat
  /-- Whether the line ends as the others do. -/
  isClosed : Bool
  file : String
  /-- Whether it is the last line that counts as one. -/
  isLast : Bool

/-- What is to be printed behind the line. -/
inductive Addition
  | text (s : String)
  | file (path : String)

/-- The state of the editor. -/
structure EditState where
  rest : List EditLine
  buffer : String
  /-- Whether the buffer is printed with the end of a line. -/
  isEnded : Bool
  held : String
  /-- Whether what is held is printed with the end of a line. -/
  isHeldEnded : Bool
  number : Nat
  line : EditLine
  additions : List Addition
  /-- The ranges that are open, by the numbers of their commands, with the last line if it is
  known. -/
  openRanges : List (Nat × Option Nat)
  lastRegex : Option Regex
  hasReplaced : Bool
  /-- The lines that are left of files that are read line by line. -/
  sources : List (String × List String)
  /-- What has been printed. -/
  out : List String
  /-- Whether the last line that has been printed has no end. -/
  isOpen : Bool
  /-- What has been written to files, and whether the end of a line is missing behind it. -/
  written : List (String × String × Bool)

/-- How the editor runs. -/
structure EditRule where
  commands : Array EditCommand
  quiet : Bool
  lineEnd : Char
  /-- The width of lines in which each character can be seen. -/
  width : Nat

/-- How a cycle ends. -/
inductive CycleEnd
  | done
  | deleted
  /-- The cycle starts again without a new line. -/
  | again
  | quit (status : Nat) (prints : Bool)

namespace EditState

/-- Prints a text, behind the end of a line that has been left open. -/
def put (s : EditState) (text : String) (isClosed : Bool) (lineEnd : Char) : EditState :=
  let out := if s.isOpen then lineEnd.toString :: s.out else s.out
  { s with out := (if isClosed then text ++ lineEnd.toString else text) :: out,
           isOpen := !isClosed }

def putRaw (s : EditState) (text : String) : EditState :=
  let out := if s.isOpen then "\n" :: s.out else s.out
  { s with out := text :: out, isOpen := false }

/-- Whether an expression fits the buffer. The result has the expression that has been used. -/
def fits (s : EditState) (r : Option Regex) (foldsCase : Bool) : Bool × EditState :=
  match r <|> s.lastRegex with
  | none => (false, s)
  | some r =>
    ((r.find? ⟨s.buffer.toList.toArray, foldsCase, false⟩ 0).isSome, { s with lastRegex := some r })

def isAt (s : EditState) : LineAddress → Bool × EditState
  | .number n => (s.number = n, s)
  | .last => (s.line.isLast, s)
  | .fitting r foldsCase => s.fits r foldsCase
  | .every first step =>
    (if step = 0 then s.number = first else first ≤ s.number && (s.number - first) % step = 0, s)

def openRange (s : EditState) (index : Nat) (last : RangeEnd) : EditState :=
  let put (stop : Option Nat) : EditState := { s with openRanges := (index, stop) :: s.openRanges }
  let upTo (n : Nat) : EditState := if n ≤ s.number then s else put (some n)
  match last with
  | .address (.number n) => upTo n
  | .count n => upTo (s.number + n)
  | .multiple n => upTo (if n = 0 then s.number else (s.number / n + 1) * n)
  | .address _ => put none

def closeRange (s : EditState) (index : Nat) : EditState :=
  { s with openRanges := s.openRanges.filter (·.1 ≠ index) }

def isInRange (s : EditState) (index : Nat) (first : LineAddress) (last : RangeEnd) :
    Bool × EditState :=
  match s.openRanges.lookup index with
  | some (some n) =>
    if n < s.number then
      let s := s.closeRange index
      let (starts, s) := s.isAt first
      match first with
      | .fitting _ _ => if starts then (true, s.openRange index last) else (false, s)
      | _ => (false, s)
    else (true, if s.number = n then s.closeRange index else s)
  | some none =>
    match last with
    | .address a =>
      let (ends, s) := s.isAt a
      (true, if ends then s.closeRange index else s)
    | _ => (true, s)
  | none =>
    let (starts, s) := s.isAt first
    if starts then (true, s.openRange index last) else (false, s)

def applies (s : EditState) (index : Nat) (c : EditCommand) : Bool × EditState :=
  let (chosen, s) :=
    match c.choice with
    | .all => (true, s)
    | .single a => s.isAt a
    | .range first last => s.isInRange index first last
  (chosen != c.negated, s)

end EditState

/-- A text in the making whose letters may change their case. -/
structure CasedText where
  chars : List Char
  change : CaseChange
  next : CaseChange

def CasedText.add (t : CasedText) (s : String) : CasedText :=
  s.toList.foldl (fun t c =>
    let c :=
      match t.next, t.change with
      | .upperNext, _ => c.toUpper
      | .lowerNext, _ => c.toLower
      | _, .upper => c.toUpper
      | _, .lower => c.toLower
      | _, _ => c
    { t with chars := c :: t.chars, next := .none }) t

def Substitution.replacement (s : Substitution) (chars : Array Char) (first : Nat) (p : Spot) :
    String :=
  let part (a b : Nat) : String := String.ofList (chars.extract a b).toList
  let add (t : CasedText) : ReplacementPart → CasedText
    | .text s => t.add s
    | .group 0 => t.add (part first p.position)
    | .group n =>
      match p.groups.lookup n with
      | some (a, b) => t.add (part a b)
      | none => t
    | .letters .upperNext => { t with next := .upperNext }
    | .letters .lowerNext => { t with next := .lowerNext }
    | .letters c => { t with change := c, next := .none }
  String.ofList (s.parts.foldl add ⟨[], .none, .none⟩).chars.reverse

/-- Replaces what an expression fits. The result is missing if nothing has been replaced. -/
def Substitution.apply? (s : Substitution) (r : Regex) (text : String) : Option String :=
  let chars := text.toList.toArray
  let subject : Subject := ⟨chars, s.foldsCase, s.hasLines⟩
  let part (a b : Nat) : String := String.ofList (chars.extract a b).toList
  go chars subject r part (chars.size + 2) 0 1 none "" false
where
  go (chars : Array Char) (subject : Subject) (r : Regex) (part : Nat → Nat → String) :
      (limit : Nat) → (i count : Nat) → (last : Option Nat) → String → Bool → Option String
    | 0, _, _, _, text, changed => if changed then some text else none
    | limit + 1, i, count, last, text, changed =>
      let finish : Option String := if changed then some (text ++ part i chars.size) else none
      match r.find? subject i with
      | none => finish
      | some (first, p) =>
        let isEmpty := first = p.position
        if isEmpty && last = some first then
          if chars.size ≤ first then finish
          else
            go chars subject r part limit (first + 1) count none
              (text ++ part i (first + 1)) changed
        else
          let before := text ++ part i first
          let replaces := s.number ≤ count
          let text :=
            before ++ (if replaces then s.replacement chars first p else part first p.position)
          let changed := changed || replaces
          if replaces && !s.everywhere then some (text ++ part p.position chars.size)
          else if isEmpty then
            if chars.size ≤ first then (if changed then some text else none)
            else
              go chars subject r part limit (first + 1) (count + 1) none
                (text ++ part first (first + 1)) changed
          else
            go chars subject r part limit p.position (count + 1) (some p.position) text changed

def visibleText (width : Nat) (text : String) : String :=
  let sign (c : Char) : String :=
    match c with
    | '\\' => "\\\\"
    | '\n' => "\\n"
    | '\t' => "\\t"
    | '\x07' => "\\a"
    | '\x08' => "\\b"
    | '\x0c' => "\\f"
    | '\x0d' => "\\r"
    | '\x0b' => "\\v"
    | c =>
      if c < ' ' || '~' < c then
        let digits := Nat.toDigits 8 c.toNat
        "\\" ++ String.ofList (List.replicate (3 - digits.length) '0' ++ digits)
      else c.toString
  let add (s : List String × Nat) (c : Char) : List String × Nat :=
    let shown := sign c
    if 1 < width && width < s.2 + shown.length + 1 then (shown :: "\\\n" :: s.1, shown.length)
    else (shown :: s.1, s.2 + shown.length)
  String.join (text.toList.foldl add ([], 0)).1.reverse ++ "$"

def firstLine (s : String) : String := String.ofList (s.toList.takeWhile (· ≠ '\n'))

def indexBehind (commands : Array EditCommand) (name : String) : Nat :=
  if name.isEmpty then commands.size
  else
    match commands.toList.findIdx? fun c => match c.action with
      | .label n => n = name
      | _ => false with
    | some i => i + 1
    | none => commands.size

def flushAdditions (s : EditState) : Program EditState := do
  let s' ← s.additions.foldlM (fun (s : EditState) a => do
    match a with
    | .text text => return s.putRaw text
    | .file path =>
      match ← Program.readPath path with
      | .ok b => return if b.isEmpty then s else s.putRaw (ByteText.ofBytes b)
      | .error _ => return s) s
  return { s' with additions := [] }

def writeLine (s : EditState) (path text : String) (isEnded : Bool) : EditState :=
  if path = "/dev/stdout" then s.put text isEnded '\n'
  else
    let lacks := (s.written.find? fun (p, _, _) => p = path).any fun (_, _, lacks) => lacks
    let start := if lacks then "\n" else ""
    { s with written := (path, start ++ text ++ (if isEnded then "\n" else ""), !isEnded) ::
      s.written }

def takeLine (s : EditState) : Option EditState :=
  match s.rest with
  | [] => none
  | line :: rest =>
    some { s with
      rest := rest, line := line, number := line.number, isEnded := line.isClosed }

def runFrom (rule : EditRule) : (limit : Nat) → (index : Nat) → EditState →
    Program (CycleEnd × EditState)
  | 0, _, s => return (.done, s)
  | limit + 1, index, s => do
    match rule.commands[index]? with
    | none => return (.done, s)
    | some c =>
      let (applies, s) := s.applies index c
      let go (s : EditState) : Program (CycleEnd × EditState) := runFrom rule limit (index + 1) s
      let jump (name : String) (s : EditState) : Program (CycleEnd × EditState) :=
        runFrom rule limit (indexBehind rule.commands name) s
      let printed (s : EditState) : EditState := s.put s.buffer s.isEnded rule.lineEnd
      if !applies then
        match c.action with
        | .block size => runFrom rule limit (index + 1 + size) s
        | _ => go s
      else
        match c.action with
        | .block _ => go s
        | .label _ => go s
        | .nothing => go s
        | .add .behind text => go { s with additions := s.additions ++ [.text text] }
        | .add .before text => go (s.putRaw text)
        | .add .instead text =>
          let isInside := !c.negated && (s.openRanges.lookup index).isSome && !s.line.isLast
          return (.deleted, if isInside then s else s.putRaw text)
        | .branch name => jump name s
        | .branchIf replaced name =>
          if s.hasReplaced = replaced then jump name { s with hasReplaced := false }
          else go { s with hasReplaced := false }
        | .delete => return (.deleted, s)
        | .deleteFirst =>
          if s.buffer.toList.contains '\n' then
            let n := (firstLine s.buffer).length + 1
            return (.again, { s with buffer := String.ofList (s.buffer.toList.drop n) })
          else return (.deleted, s)
        | .showNumber => go (s.putRaw (toString s.number ++ "\n"))
        | .showName => go (s.putRaw (s.line.file ++ "\n"))
        | .copyHeld => go { s with buffer := s.held, isEnded := s.isHeldEnded }
        | .appendHeld =>
          go { s with
            buffer := s.buffer ++ rule.lineEnd.toString ++ s.held,
            isEnded := s.isHeldEnded }
        | .hold => go { s with held := s.buffer, isHeldEnded := s.isEnded }
        | .appendToHeld =>
          go { s with
            held := s.held ++ rule.lineEnd.toString ++ s.buffer,
            isHeldEnded := s.isEnded }
        | .exchange =>
          go { s with
            buffer := s.held, held := s.buffer, isEnded := s.isHeldEnded,
            isHeldEnded := s.isEnded }
        | .list width =>
          go (s.put (visibleText (width.getD rule.width) s.buffer) true '\n')
        | .next =>
          if s.rest.isEmpty then return (.quit 0 true, s)
          let s := if rule.quiet then s else printed s
          let s ← flushAdditions s
          match takeLine s with
          | some s => go { s with buffer := s.line.text }
          | none => return (.quit 0 false, s)
        | .appendNext =>
          if s.rest.isEmpty then return (.quit 0 true, s)
          let s ← flushAdditions s
          match takeLine s with
          | some t => go { t with buffer := s.buffer ++ rule.lineEnd.toString ++ t.line.text }
          | none => return (.quit 0 true, s)
        | .print => go (printed s)
        | .printFirst =>
          let isWhole := !s.buffer.toList.contains '\n'
          go (s.put (firstLine s.buffer) (!isWhole || s.isEnded) rule.lineEnd)
        | .quit status prints => return (.quit status prints, s)
        | .readFile path => go { s with additions := s.additions ++ [.file path] }
        | .readLine path =>
          let lines ← match s.sources.lookup path with
            | some lines => pure lines
            | none => do
              match ← Program.readPath path with
              | .ok b => pure (textLines b)
              | .error _ => pure []
          let added := (lines.take 1).map fun line => Addition.text (line ++ "\n")
          let sources := (path, lines.drop 1) :: s.sources.filter (·.1 ≠ path)
          go { s with additions := s.additions ++ added, sources := sources }
        | .writeFile path => go (writeLine s path s.buffer s.isEnded)
        | .writeFirst path =>
          let isWhole := !s.buffer.toList.contains '\n'
          go (writeLine s path (firstLine s.buffer) (!isWhole || s.isEnded))
        | .translate pairs =>
          let change (c : Char) : Char := (pairs.lookup c).getD c
          go { s with buffer := String.ofList (s.buffer.toList.map change) }
        | .clear => go { s with buffer := "" }
        | .substitute sub =>
          match sub.regex <|> s.lastRegex with
          | none => Program.refuse "no previous regular expression"
          | some r =>
            let s := { s with lastRegex := some r }
            let sub := { sub with hasLines := sub.hasLines && rule.lineEnd = '\n' }
            match sub.apply? r s.buffer with
            | none => go s
            | some text =>
              let s := { s with buffer := text, hasReplaced := true }
              let s := if sub.prints then printed s else s
              go (match sub.file with
                | some path => writeLine s path s.buffer s.isEnded
                | none => s)

def commandLimit : Nat := 10000000

/-- Runs the commands for each line. The result has the status. -/
def runLines (rule : EditRule) : (limit : Nat) → (reads : Bool) → EditState →
    Program (Nat × EditState)
  | 0, _, s => return (0, s)
  | limit + 1, reads, s => do
    let next := if reads then (takeLine s).map fun s => { s with buffer := s.line.text } else some s
    match next with
    | none => return (0, s)
    | some s =>
      let (result, s) ← runFrom rule commandLimit 0 { s with hasReplaced := false }
      let printed (s : EditState) : EditState :=
        if rule.quiet then s else s.put s.buffer s.isEnded rule.lineEnd
      match result with
      | .done => runLines rule limit true (← flushAdditions (printed s))
      | .deleted => runLines rule limit true (← flushAdditions s)
      | .again => runLines rule limit false (← flushAdditions s)
      | .quit status prints =>
        return (status, ← flushAdditions (if prints then printed s else s))

def editLines (lineEnd : Char) (file : String) (b : Bytes) : List EditLine :=
  let swap (x : UInt8) : UInt8 :=
    if lineEnd = '\n' then x else if x = 0 then 10 else if x = 10 then 0 else x
  let b := b.map swap
  let lines := (linesOf b).map fun line => ByteText.ofBytes (line.map swap)
  let isClosed := b.getLast? = some 10
  lines.zipIdx.map fun (text, i) =>
    let isLast := i + 1 = lines.length
    ⟨text, i + 1, !isLast || isClosed, file, isLast⟩

/-- Lines of several files, which are counted together, and of which only the last one counts as
such. -/
def joinLines : (before : Nat) → List (List EditLine) → List EditLine
  | _, [] => []
  | before, lines :: rest =>
    let counted := lines.map fun l => { l with number := before + l.number }
    let others := joinLines (before + lines.length) rest
    if others.isEmpty then counted
    else counted.map (fun l => { l with isLast := false }) ++ others

def EditState.start (lines : List EditLine) (number : Nat) : EditState where
  rest := lines
  buffer := ""
  isEnded := true
  held := ""
  isHeldEnded := true
  number := number
  line := ⟨"", 0, true, "-", false⟩
  additions := []
  openRanges := []
  lastRegex := none
  hasReplaced := false
  sources := []
  out := []
  isOpen := false
  written := []

def EditState.printed (s : EditState) : String := String.join s.out.reverse

def startRanges (commands : Array EditCommand) : List (Nat × Option Nat) :=
  commands.toList.zipIdx.filterMap fun (c, i) =>
    match c.choice with
    | .range (.number 0) _ => some (i, none)
    | _ => none

def writtenPaths (commands : Array EditCommand) : List String :=
  commands.toList.filterMap fun c =>
    match c.action with
    | .writeFile path => some path
    | .writeFirst path => some path
    | .substitute s => s.file
    | _ => none

def writeOutputs (paths : List String) (s : EditState) : Program Unit :=
  (paths.filter (· ≠ "/dev/stdout")).forM fun path => do
    let texts := s.written.reverse.filterMap fun (p, text, _) =>
      if p = path then some text else none
    let _ ← Program.writePath path .write (ByteText.toBytes (String.join texts))

/-- The path for what has been in a file before, by a suffix or by a pattern for the name. -/
def backupPath (path suffix : String) : String :=
  let name := lastName path
  let backup :=
    if suffix.toList.contains '*' then suffix.replace "*" name else name ++ suffix
  if backup.toList.contains '/' || !path.toList.contains '/' then backup
  else directoryName path ++ "/" ++ backup

/-- Puts a new file in place of what is at a path, which is a link no more. What has been there is
moved to another path if one is given. -/
def replaceFile (path : String) (backup? : Option String) (b : Bytes) : Program Unit := do
  let w := (← get).world
  match ← entryItself path, ← entryOf path with
  | .ok (itself, _), .ok (l, _) =>
    let moved? := match backup? with
      | some backup =>
        match w.files.target (ByteText.decode backup) with
        | .ok ⟨d, .name s _⟩ => some (d ++ [s])
        | _ => none
      | none => none
    let w' := match moved? with
      | some dest => w.moveTo itself dest
      | none => w.removeAll itself
    let w' := { w' with files := w'.files.put itself (.file b) }
    changeWorld fun _ => w'.setMode itself (w.mode l)
  | _, _ => return ()

def refuseEdit {α : Type} (wording : String) : Program α := do
  Program.complain wording
  Program.finish EditCommand.severeStatus

def editFiles (arguments : List String) : Program Unit := do
  let arguments := arguments.map fun s =>
    if s.startsWith "-i" && s ≠ "-i" then "--in-place=" ++ String.ofList (s.toList.drop 2)
    else if s = "--in-place" then "-i" else s
  let g ← givenTo (flags "nErsuzi" ++ settings "efl" ++ [⟨'n', "quiet", false⟩,
    ⟨'n', "silent", false⟩, ⟨'e', "expression", true⟩, ⟨'f', "file", true⟩,
    ⟨'E', "regexp-extended", false⟩, ⟨'I', "in-place", true⟩, ⟨'s', "separate", false⟩,
    ⟨'z', "null-data", false⟩, ⟨'l', "line-length", true⟩, ⟨'u', "unbuffered", false⟩,
    ⟨'p', "posix", false⟩]) arguments
  let given := g.options.filter fun (c, _) => c = 'e' || c = 'f'
  let (script, paths) ←
    if given.isEmpty then
      match g.operands with
      | [] =>
        let name := (← get).speaker
        Program.printTo 2 (ByteText.toBytes
          ("Usage: " ++ name ++ " [OPTION]... \x7bscript-only-if-no-other-script\x7d " ++
            "[input-file]...\n"))
        Program.finish 1
      | text :: paths => pure ([(⟨none, text⟩ : EditCommand.Piece)], paths)
    else
      let pieces ← given.mapM fun (c, value) => do
        if c = 'e' then return (⟨none, value⟩ : EditCommand.Piece)
        else
          match ← readOperand? value with
          | .ok b =>
            let text := ByteText.ofBytes b
            let text := if text.endsWith "\n" then String.ofList text.toList.dropLast else text
            return ⟨some value, text⟩
          | .error fault => refuseEdit ("couldn't open file " ++ value ++ ": " ++ faultWording fault)
      pure (pieces, g.operands)
  match EditCommand.readAll (g.has 'E' || g.has 'r') script with
  | .error fault =>
    Program.complain fault.wording
    Program.finish fault.status
  | .ok commands =>
    let lineEnd := if g.has 'z' then '\x00' else '\n'
    let quiet := g.has 'n' || (script.head?.any fun p => (p.text ++ "\n").startsWith "#n\n")
    let width := ((g.value? 'l').bind decimal?).getD 70
    let rule : EditRule := ⟨commands.toArray, quiet, lineEnd, width⟩
    let inPlace := g.has 'i' || g.has 'I'
    if inPlace && paths.isEmpty then refuseEdit "no input files"
    let outputs := writtenPaths rule.commands
    let limit (lines : List EditLine) : Nat := 1000000 + lines.length
    let run (lines : List EditLine) (s : EditState) : Program (Nat × EditState) :=
      runLines rule (limit lines) true
        { s with rest := lines, openRanges := startRanges rule.commands ++ s.openRanges }
    let paths := if paths.isEmpty && !inPlace then ["-"] else paths
    let readable ← paths.mapM fun path => return (path, ← Program.isDirectory path)
    let directory? := if inPlace then none else (readable.find? (·.2)).map (·.1)
    let paths := if inPlace then paths else (readable.takeWhile (!·.2)).map (·.1)
    let contents ← paths.filterMapM fun path => do
      match ← readOperand? path with
      | .ok b => return some (path, editLines lineEnd path b)
      | .error .isDirectory =>
        return some (path, [])
      | .error fault =>
        Program.complain ("can't read " ++ path ++ ": " ++ faultWording fault)
        Program.setStatus 2
        return none
    if inPlace then
      contents.forM fun (path, lines) => do
        if ← Program.isDirectory path then
          refuseEdit ("couldn't edit " ++ path ++ ": not a regular file")
        let (status, s) ← run lines (EditState.start [] 0)
        let left := s.rest.map fun line =>
          line.text ++ (if line.isClosed then lineEnd.toString else "")
        let text := s.printed ++ String.join left
        replaceFile path ((g.value? 'I').map (backupPath path)) (ByteText.toBytes text)
        writeOutputs outputs s
        if status ≠ 0 then Program.setStatus status
    else
      let lines :=
        if g.has 's' then (contents.map (·.2)).flatten else joinLines 0 (contents.map (·.2))
      let (status, s) ← run lines (EditState.start [] 0)
      Program.printText s.printed
      writeOutputs outputs s
      match directory? with
      | some path => refuseEdit ("read error on " ++ path ++ ": Is a directory")
      | none => if status ≠ 0 then Program.setStatus status

end FlashImage.Shell
