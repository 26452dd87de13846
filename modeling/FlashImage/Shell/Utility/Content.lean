import FlashImage.Shell.Utility.Basic

/-!
Programs that print what files hold: whole files, their starts and ends, and their sizes.
-/

set_option autoImplicit false
set_option relaxedAutoImplicit false

namespace FlashImage.Shell

def alignRight (width : Nat) (s : String) : String :=
  String.ofList (List.replicate (width - s.length) ' ') ++ s

def linePieces (b : Bytes) : List Bytes := go b []
where
  go : Bytes → Bytes → List Bytes
    | [], [] => []
    | [], line => [line.reverse]
    | x :: rest, line => if x = 10 then (x :: line).reverse :: go rest [] else go rest (x :: line)

def visibleByte (x : UInt8) : String :=
  let low (n : Nat) : String :=
    if n < 32 then "^" ++ (Char.ofNat (n + 64)).toString
    else if n = 127 then "^?"
    else (Char.ofNat n).toString
  if x.toNat < 128 then low x.toNat else "M-" ++ low (x.toNat - 128)

/-- How lines are shown. -/
structure LineStyle where
  numbers : Bool
  /-- Whether empty lines have no numbers. -/
  skips : Bool
  /-- Whether empty lines that follow one another are shown once. -/
  squeezes : Bool
  marksEnds : Bool
  marksTabs : Bool
  marksOthers : Bool

def LineStyle.render (style : LineStyle) (line : Bytes) : String :=
  let part (x : UInt8) : String :=
    if x = 10 then (if style.marksEnds then "$" else "") ++ "\n"
    else if x = 9 then if style.marksTabs then "^I" else "\t"
    else if style.marksOthers then visibleByte x
    else (Char.ofNat x.toNat).toString
  String.join (line.map part)

def LineStyle.renderAll (style : LineStyle) (lines : List Bytes) : String :=
  go lines 1 false
where
  go : List Bytes → (number : Nat) → (afterEmpty : Bool) → String
    | [], _, _ => ""
    | line :: rest, n, afterEmpty =>
      let isEmpty := line = [10]
      if isEmpty && afterEmpty && style.squeezes then go rest n true
      else if style.numbers && !(isEmpty && style.skips) then
        alignRight 6 (toString n) ++ "\t" ++ style.render line ++ go rest (n + 1) isEmpty
      else style.render line ++ go rest n isEmpty

def printFiles (arguments : List String) : Program Unit := do
  let g ← givenTo (flags "AbeEnstTuv" ++ [⟨'A', "show-all", false⟩, ⟨'n', "number", false⟩,
    ⟨'b', "number-nonblank", false⟩, ⟨'s', "squeeze-blank", false⟩, ⟨'E', "show-ends", false⟩,
    ⟨'T', "show-tabs", false⟩, ⟨'v', "show-nonprinting", false⟩]) arguments
  let has := g.options.any fun (c, _) => c ≠ 'u'
  if has then
    let style : LineStyle :=
      { numbers := g.has 'n' || g.has 'b', skips := g.has 'b', squeezes := g.has 's',
        marksEnds := g.has 'E' || g.has 'A' || g.has 'e',
        marksTabs := g.has 'T' || g.has 'A' || g.has 't',
        marksOthers := g.has 'v' || g.has 'A' || g.has 'e' || g.has 't' }
    let b ← readAll g.operands
    Program.printText (style.renderAll (linePieces b))
  else readOperands g.operands fun _ b => Program.print b

def printReversed (arguments : List String) : Program Unit := do
  let g ← givenTo (flags "b" ++ settings "s") arguments
  let paths := if g.operands.isEmpty then ["-"] else g.operands
  paths.forM fun path => do
    match ← readOperand? path with
    | .ok b => Program.print (linePieces b).reverse.flatten
    | .error .isDirectory =>
      Program.object (plainPath path ++ ": read error: Invalid argument")
    | .error fault =>
      let wording := "failed to open " ++ shownPath path ++ " for reading: " ++ faultWording fault
      Program.object wording

/-- Prints the lines of files with their characters from the last one to the first. -/
def printMirrored (arguments : List String) : Program Unit := do
  let g ← givenTo [] arguments
  let paths := if g.operands.isEmpty then ["-"] else g.operands
  paths.forM fun path => do
    match ← readOperand? path with
    | .ok b =>
      (linePieces b).forM fun line => do
        let body := line.filter (· ≠ 10)
        Program.print (body.reverse ++ line.drop body.length)
    | .error fault => Program.object ("cannot open " ++ path ++ ": " ++ faultWording fault)

/-- A part of a file that starts at its start or ends at its end. -/
structure Portion where
  inBytes : Bool
  count : Nat
  /-- Whether what is counted is left out, and the rest is kept. -/
  others : Bool

def Portion.start (p : Portion) (b : Bytes) : Bytes :=
  if p.inBytes then if p.others then b.take (b.length - p.count) else b.take p.count
  else
    let lines := linePieces b
    (if p.others then lines.take (lines.length - p.count) else lines.take p.count).flatten

/-- The end of some bytes. A count that leaves others out starts with the first one. -/
def Portion.ending (p : Portion) (b : Bytes) : Bytes :=
  if p.inBytes then if p.others then b.drop (p.count - 1) else b.drop (b.length - p.count)
  else
    let lines := linePieces b
    (if p.others then lines.drop (p.count - 1) else lines.drop (lines.length - p.count)).flatten

def portionOptions : List OptionSpec :=
  flags "qvzfF" ++ settings "nc" ++ [⟨'n', "lines", true⟩, ⟨'c', "bytes", true⟩,
    ⟨'q', "quiet", false⟩, ⟨'q', "silent", false⟩, ⟨'v', "verbose", false⟩]

/-- An argument in an old form as one in the new form: a sign, digits, and a letter. -/
def modernPortion (signs : List Char) : List String → List String
  | first :: rest =>
    match first.toList with
    | sign :: text =>
      let digits := text.takeWhile Char.isDigit
      if !signs.contains sign || digits.isEmpty then first :: rest
      else
        let value := (if sign = '+' then "+" else "") ++ String.ofList digits
        match text.drop digits.length with
        | [] => "-n" :: value :: rest
        | ['c'] => "-c" :: value :: rest
        | ['l'] => "-n" :: value :: rest
        | _ => first :: rest
    | [] => first :: rest
  | [] => []

/-- The portion that options ask for, where a sign leaves others out. -/
def portionOf (leaves : Char) (g : Given) : Program Portion := do
  match g.options.reverse.find? fun (c, _) => c = 'n' || c = 'c' with
  | none => return ⟨false, 10, false⟩
  | some (c, value) =>
    let (others, digits) :=
      match value.toList with
      | '-' :: digits => (leaves == '-', digits)
      | '+' :: digits => (leaves == '+', digits)
      | digits => (false, digits)
    match readCount? countFactors (String.ofList digits) with
    | some n => return ⟨c = 'c', n, others⟩
    | none =>
      let unit := if c = 'c' then "bytes" else "lines"
      Program.refuse ("invalid number of " ++ unit ++ ": " ++ shownPath value)

/-- Prints portions of files, with their names if there is more than one. -/
def printPortions (take : Bytes → Bytes) (consume : Bool) (g : Given) : Program Unit := do
  let paths := if g.operands.isEmpty then ["-"] else g.operands
  let titled := g.has 'v' || (1 < paths.length && !g.has 'q')
  let title (first : Bool) (path : String) : Program Unit := do
    if titled then
      let name := if path = "-" then "standard input" else path
      Program.printText ((if first then "" else "\n") ++ "==> " ++ name ++ " <==\n")
  let _ ← paths.foldlM (fun first path => do
    let result ←
      if path = "-" then do
        let b ← Program.peekInput
        if (← Program.inputEndpoint) = some .directory then pure (.error .isDirectory)
        else
          Program.consume (if consume then (take b).length else b.length)
          pure (.ok b)
      else Program.readPath path
    match result with
    | .ok b => do
      title first path
      Program.print (take b)
      return false
    | .error .isDirectory => do
      title first path
      Program.object ("error reading " ++ shownPath path ++ ": Is a directory")
      return false
    | .error fault => do
      Program.object ("cannot open " ++ shownPath path ++ " for reading: " ++ faultWording fault)
      return first) true

def printStarts (arguments : List String) : Program Unit := do
  let g ← givenTo portionOptions (modernPortion ['-'] arguments)
  let p ← portionOf '-' g
  printPortions p.start true g

def printEnds (arguments : List String) : Program Unit := do
  let g ← givenTo portionOptions (modernPortion ['-', '+'] arguments)
  let p ← portionOf '+' g
  printPortions p.ending false g

def copyInput (arguments : List String) : Program Unit := do
  let g ← givenTo (flags "aip" ++ [⟨'a', "append", false⟩]) arguments
  let b ← Program.takeInput
  let mode : OpenMode := if g.has 'a' then .append else .write
  Program.print b
  g.operands.forM fun path => do
    match ← Program.writePath path mode b with
    | .ok () => return ()
    | .error fault => Program.object (plainPath path ++ ": " ++ faultWording fault)

/-- How much there is of some bytes. -/
structure Counts where
  lines : Nat
  words : Nat
  bytes : Nat
  width : Nat

def Counts.of (b : Bytes) : Counts :=
  let isBlank (x : UInt8) : Bool := x = 32 || (9 ≤ x && x ≤ 13)
  let word (s : Nat × Bool) (x : UInt8) : Nat × Bool :=
    if isBlank x then (s.1, false) else if s.2 then s else (s.1 + 1, true)
  ⟨b.count 10, (b.foldl word (0, false)).1, b.length,
    (linesOf b).foldl (fun n line => max n line.length) 0⟩

def Counts.add (a b : Counts) : Counts :=
  ⟨a.lines + b.lines, a.words + b.words, a.bytes + b.bytes, max a.width b.width⟩

def digitCount (n : Nat) : Nat := (toString n).length

def countWidth (single : Bool) (paths : List String) : Program Nat := do
  if single && paths.length ≤ 1 then return 1
  let p ← get
  let size (path : String) : Program (Option Nat) := do
    if path = "-" then
      match (p.descriptors.lookup 0).bind fun id => p.world.opened[id]? with
      | some f =>
        match f.endpoint with
        | .file _ => return some (p.world.content f.endpoint).length
        | _ => return none
      | none => return some 0
    else
      match ← Program.find path with
      | .ok (_, .file b) => return some b.length
      | .ok _ => return none
      | .error _ => return some 0
  let sizes ← (if paths.isEmpty then ["-"] else paths).mapM size
  let isMissing ← match paths with
    | first :: _ => do
      if first = "-" then pure false
      else pure !(← Program.find first).isOk
    | [] => pure false
  if isMissing then return 1
  let width := digitCount (sizes.foldl (fun n s => n + s.getD 0) 0)
  return if sizes.all Option.isSome then width else max 7 width

def printCounts (arguments : List String) : Program Unit := do
  let g ← givenTo (flags "lwcmL" ++ [⟨'l', "lines", false⟩, ⟨'w', "words", false⟩,
    ⟨'c', "bytes", false⟩, ⟨'m', "chars", false⟩, ⟨'L', "max-line-length", false⟩]) arguments
  let all := g.options.isEmpty
  let has (c : Char) : Bool := g.has c || (all && "lwc".toList.contains c)
  let kinds := "lwmcL".toList.filter has
  let width ← countWidth (kinds.length = 1) g.operands
  let row (c : Counts) (name : String) : Program Unit := do
    let number (kind : Char) : String :=
      alignRight width (toString (match kind with
        | 'l' => c.lines
        | 'w' => c.words
        | 'L' => c.width
        | _ => c.bytes))
    let columns := " ".intercalate (kinds.map number)
    Program.printText (columns ++ (if name.isEmpty then "" else " " ++ name) ++ "\n")
  let paths := if g.operands.isEmpty then ["-"] else g.operands
  let total ← paths.foldlM (fun total path => do
    let name := if g.operands.isEmpty then "" else path
    match ← readOperand? path with
    | .ok b => do
      row (Counts.of b) name
      return total.add (Counts.of b)
    | .error fault => do
      Program.object (plainPath path ++ ": " ++ faultWording fault)
      if fault = .isDirectory then row ⟨0, 0, 0, 0⟩ name
      return total) ⟨0, 0, 0, 0⟩
  if 1 < paths.length then row total "total"

def printNumbered (arguments : List String) : Program Unit := do
  let g ← givenTo (flags "p" ++ settings "bdfhilnsvw") arguments
  let style := (g.value? 'b').getD "t"
  let width := ((g.value? 'w').bind decimal?).getD 6
  let separator := (g.value? 's').getD "\t"
  let first := ((g.value? 'v').bind decimal?).getD 1
  let step := ((g.value? 'i').bind decimal?).getD 1
  let b ← readAll g.operands
  let numbered (n : Nat) : String :=
    let digits := toString n
    match g.value? 'n' with
    | some "ln" => digits ++ String.ofList (List.replicate (width - digits.length) ' ')
    | some "rz" => String.ofList (List.replicate (width - digits.length) '0') ++ digits
    | _ => alignRight width digits
  let _ ← (textLines b).foldlM (fun n line => do
    if style = "a" || (style = "t" && !line.isEmpty) then
      Program.printText (numbered n ++ separator ++ line ++ "\n")
      return n + step
    else
      let blanks := String.ofList (List.replicate (width + separator.length) ' ')
      Program.printText (blanks ++ line ++ "\n")
      return n) first

def printFolded (arguments : List String) : Program Unit := do
  let g ← givenTo (flags "bs" ++ settings "w" ++ [⟨'w', "width", true⟩]) arguments
  let value := (g.value? 'w').getD "80"
  match decimal? value with
  | none => Program.refuse ("invalid number of columns: " ++ shownPath value)
  | some 0 => Program.refuse ("invalid number of columns: " ++ shownPath value)
  | some width =>
    let b ← readAll g.operands
    let cut (line : Bytes) : Bytes := fold (g.has 's') width (line.length + 1) line
    Program.print ((linePieces b).map cut).flatten
where
  fold (atBlanks : Bool) (width : Nat) : Nat → Bytes → Bytes
    | 0, line => line
    | limit + 1, line =>
      let body := line.takeWhile (· ≠ 10)
      if body.length ≤ width then line
      else
        let start := line.take width
        let kept := (start.reverse.dropWhile (· ≠ 32)).reverse
        let start := if atBlanks && !kept.isEmpty then kept else start
        start ++ 10 :: fold atBlanks width limit (line.drop start.length)

end FlashImage.Shell
