import FlashImage.Shell.Pattern
import FlashImage.Shell.Regex.Reader
import FlashImage.Shell.Utility.Content
import FlashImage.Shell.Utility.Tree

/-!
The program that looks for lines which patterns fit.

The status says whether a line has been found, or that something could not be read.
-/

set_option autoImplicit false
set_option relaxedAutoImplicit false

namespace FlashImage.Shell

/-- What is looked for in lines. -/
structure LineSearch where
  patterns : List Regex
  foldsCase : Bool
  wholeLines : Bool
  wholeWords : Bool

def LineSearch.subject (s : LineSearch) (line : String) : Subject :=
  ⟨line.toList.toArray, s.foldsCase, false⟩

def isWhole (t : Subject) (first last : Nat) : Bool :=
  !Regex.isWordBefore t first && !Regex.isWordAt t last

def LineSearch.endAt? (s : LineSearch) (t : Subject) (i : Nat) : Option Nat :=
  let ends := s.patterns.flatMap fun r => (r.ends t ⟨i, []⟩).map (·.position)
  let ends := if s.wholeWords then ends.filter (isWhole t i) else ends
  let ends := if s.wholeLines then ends.filter (· = t.chars.size) else ends
  ends.max?

def LineSearch.find? (s : LineSearch) (t : Subject) : (limit : Nat) → (i : Nat) →
    Option (Nat × Nat)
  | 0, _ => none
  | limit + 1, i =>
    if t.chars.size < i || (s.wholeLines && i ≠ 0) then none
    else
      match s.endAt? t i with
      | some last => some (i, last)
      | none => s.find? t limit (i + 1)

def LineSearch.fits (s : LineSearch) (line : String) : Bool :=
  let t := s.subject line
  (s.find? t (t.chars.size + 1) 0).isSome

/-- All that is found in a line, with its place, without what is empty. -/
def LineSearch.findAll (s : LineSearch) (line : String) : List (Nat × String) :=
  let t := s.subject line
  go t (t.chars.size + 1) 0
where
  go (t : Subject) : (limit : Nat) → (i : Nat) → List (Nat × String)
    | 0, _ => []
    | limit + 1, i =>
      match s.find? t (t.chars.size + 1) i with
      | none => []
      | some (first, last) =>
        if first = last then go t limit (first + 1)
        else
          (first, String.ofList (t.chars.extract first last).toList) :: go t limit last

/-- A line of a file, with its number and its place in bytes. -/
structure PlacedLine where
  number : Nat
  offset : Nat
  text : String

def placedLines (lines : List String) : List PlacedLine :=
  let step (s : List PlacedLine × Nat × Nat) (line : String) : List PlacedLine × Nat × Nat :=
    (⟨s.2.1, s.2.2, line⟩ :: s.1, s.2.1 + 1, s.2.2 + line.length + 1)
  (lines.foldl step ([], 1, 0)).1.reverse

def surrounding (before after : Nat) (numbers : List Nat) (n : Nat) : Bool :=
  numbers.any fun m => m ≤ n + before && n ≤ m + after

def searchOptions : List OptionSpec :=
  flags "aEFGHILPRTUVZbchilnoqrsvwxyz" ++ settings "ABCDdefm" ++ [⟨'c', "count", false⟩,
    ⟨'A', "after-context", true⟩, ⟨'B', "before-context", true⟩, ⟨'C', "context", true⟩,
    ⟨'j', "include", true⟩, ⟨'k', "exclude", true⟩, ⟨'t', "exclude-dir", true⟩,
    ⟨'Z', "null", false⟩, ⟨'z', "null-data", false⟩, ⟨'d', "directories", true⟩,
    ⟨'b', "byte-offset", false⟩, ⟨'y', "no-ignore-case", false⟩, ⟨'T', "initial-tab", false⟩,
    ⟨'G', "basic-regexp", false⟩,
    ⟨'q', "quiet", false⟩, ⟨'q', "silent", false⟩, ⟨'v', "invert-match", false⟩,
    ⟨'i', "ignore-case", false⟩, ⟨'n', "line-number", false⟩, ⟨'E', "extended-regexp", false⟩,
    ⟨'F', "fixed-strings", false⟩, ⟨'o', "only-matching", false⟩, ⟨'x', "line-regexp", false⟩,
    ⟨'w', "word-regexp", false⟩, ⟨'l', "files-with-matches", false⟩, ⟨'e', "regexp", true⟩,
    ⟨'L', "files-without-match", false⟩, ⟨'h', "no-filename", false⟩, ⟨'s', "no-messages", false⟩,
    ⟨'H', "with-filename", false⟩, ⟨'m', "max-count", true⟩, ⟨'a', "text", false⟩,
    ⟨'f', "file", true⟩, ⟨'r', "recursive", false⟩]

def searchFailure : Nat := 2

def refuseSearch {α : Type} (wording : String) : Program α := do
  Program.complain wording
  Program.finish searchFailure

def fixedRegex (text : String) : Regex :=
  text.toList.foldl (fun r c => match r with
    | .empty => Regex.ofChar c
    | r => .both r (Regex.ofChar c)) .empty

def patternKind (kind : Char) (g : Given) : Char :=
  ((g.options.reverse.map (·.1)).find? fun c => "EFGP".toList.contains c).getD kind

/-- The signs for counts in an expression that have nothing in front of them. -/
def idleSigns (atStart : Bool) : (limit : Nat) → List Char → List String
  | 0, _ => []
  | _, [] => []
  | limit + 1, c :: rest =>
    let sign? : Option String :=
      if !atStart then none
      else if c = '*' ∨ c = '+' ∨ c = '?' then some c.toString
      else if c = '\x7b' then
        (Regex.readCountSign? ['\x7d'] rest).map fun _ => "\x7b...\x7d"
      else none
    match sign?, c with
    | some sign, _ => sign :: idleSigns true limit rest
    | none, '\\' => idleSigns false limit (rest.drop 1)
    | none, '[' =>
      match Regex.readSetSign rest with
      | .ok (_, rest) => idleSigns false limit rest
      | .error _ => []
    | none, c => idleSigns (c = '(' || c = '|' || (atStart && c = '^')) limit rest

/-- Whether a set in an expression is a class without brackets of its own. -/
def hasBareClass : (limit : Nat) → List Char → Bool
  | 0, _ => false
  | _, [] => false
  | limit + 1, '\\' :: rest => hasBareClass limit (rest.drop 1)
  | limit + 1, '[' :: ':' :: rest =>
    let members := rest.takeWhile (· ≠ ']')
    (1 < members.length && members.length < rest.length && members.getLast? = some ':') ||
      hasBareClass limit (rest.drop members.length)
  | _ + 1, '[' :: '[' :: _ => false
  | limit + 1, _ :: rest => hasBareClass limit rest

def readPatternLines (kind : Char) (texts : List String) : Program (List Regex) :=
  (texts.flatMap (·.splitOn "\n")).mapM fun text => do
    if kind = 'F' then return fixedRegex text
    if hasBareClass (text.length + 1) text.toList then
      refuseSearch "character class syntax is [[:space:]], not [:space:]"
    if kind = 'E' then
      (idleSigns true (text.length + 1) text.toList).forM fun sign =>
        Program.complain ("warning: " ++ sign ++ " at start of expression")
    match Regex.read (kind = 'E' || kind = 'P') (kind = 'E') text with
    | .ok (r, _) => return r
    | .error wording =>
      refuseSearch (if wording = Regex.openSet then "Invalid regular expression" else wording)

def readPatternsOf (kind : Char) (g : Given) : Program (List Regex × List String) := do
  let given := g.options.filter fun (c, _) => c = 'e' || c = 'f'
  let usage {α : Type} : Program α := do
    Program.pointToHelp
    Program.finish searchFailure
  if given.isEmpty then
    match g.operands with
    | [] => usage
    | text :: paths => return (← readPatternLines kind [text], paths)
  else
    let texts ← given.mapM fun (c, value) => do
      if c = 'e' then return [value]
      else
        match ← readOperand? value with
        | .ok b => return textLines b
        | .error fault => refuseSearch (value ++ ": " ++ faultWording fault)
    return (← readPatternLines kind texts.flatten, g.operands)

/-- Whether an option with patterns for names has one that fits a name. -/
def namedBy (g : Given) (letter : Char) (name : String) : Bool :=
  g.options.any fun (c, pattern) =>
    c = letter && (Pattern.ofChars (pattern.toList.map fun c => ⟨c, true⟩)).fits name.toList

def isLeftOut (g : Given) (name : String) : Bool :=
  namedBy g 'k' name || (g.has 'j' && !namedBy g 'j' name)

/-- The files that paths stand for, where those in directories may be asked for. -/
def searchedPaths (g : Given) (recursive isTop : Bool) : (depth : Nat) → (path : String) →
    Program (List String)
  | 0, path => return [path]
  | depth + 1, path => do
    let isLink := match ← Program.findItself path with
      | .ok (_, .link _) => true
      | _ => false
    if isLink && !isTop && !g.has 'R' then return []
    let isDirectory ← if path = "-" then pure false else Program.isDirectory path
    if isDirectory && recursive then
      let names := ((← Program.files).list (ByteText.decode path)).toOption.getD []
      let below ← (names.map ByteText.encode).mapM fun name => do
        let inner := withoutSlashes path ++ "/" ++ name
        if (← Program.isDirectory inner) && namedBy g 't' name then return []
        searchedPaths g recursive false depth inner
      return below.flatten
    else if isDirectory && (g.value? 'd' = some "skip" || g.value? 'd' = some "recurse") then
      return []
    else if isLeftOut g (lastName path) then return []
    else return [path]

/-- What a search has to print. -/
structure SearchStyle where
  g : Given
  titled : Bool
  before : Nat
  after : Nat
  most : Option Nat

def SearchStyle.lead (s : SearchStyle) (path : String) (sign : String) (line : PlacedLine)
    (offset : Nat) : String :=
  let name := if path = "-" then "(standard input)" else path
  (if s.titled then name ++ sign else "") ++
    (if s.g.has 'n' then toString line.number ++ sign else "") ++
    (if s.g.has 'b' then toString (line.offset + offset) ++ sign else "")

/-- Prints the lines that have been found, with those around them. -/
def SearchStyle.printFound (s : SearchStyle) (search : LineSearch) (path : String)
    (lines found : List PlacedLine) : Program Unit := do
  let close := lineEnd s.g
  if s.g.has 'o' then
    if !s.g.has 'v' then
      found.forM fun line =>
        (search.findAll line.text).forM fun (offset, text) =>
          Program.printText (s.lead path ":" line offset ++ text ++ close)
  else if s.before = 0 && s.after = 0 then
    Program.printText (String.join (found.map fun line =>
      s.lead path ":" line 0 ++ line.text ++ close))
  else
    let numbers := found.map (·.number)
    let shown := lines.filter fun line => surrounding s.before s.after numbers line.number
    let _ ← shown.foldlM (fun (last : Option Nat) line => do
      if last.any (· + 1 ≠ line.number) then Program.printText ("--" ++ close)
      let sign := if numbers.contains line.number then ":" else "-"
      Program.printText (s.lead path sign line 0 ++ line.text ++ close)
      return some line.number) none
where
  lineEnd (g : Given) : String := if g.has 'z' then "\x00" else "\n"

def zeroPieces (b : Bytes) : List String :=
  let swap (x : UInt8) : UInt8 := if x = 0 then 10 else if x = 10 then 0 else x
  (linesOf (b.map swap)).map fun line => ByteText.ofBytes (line.map swap)

/-- Searches a file. The result says whether something has been found. -/
def SearchStyle.search (s : SearchStyle) (search : LineSearch) (path : String) (b : Bytes) :
    Program Bool := do
  let lines := placedLines (if s.g.has 'z' then zeroPieces b else textLines b)
  let found := lines.filter fun line => search.fits line.text != s.g.has 'v'
  let found := match s.most with
    | some n => found.take n
    | none => found
  let isBinary := b.contains 0 && !s.g.has 'a' && !s.g.has 'z'
  let found := if isBinary && s.g.has 'I' then [] else found
  let name := if path = "-" then "(standard input)" else path
  let nameEnd := if s.g.has 'Z' then "\x00" else "\n"
  if s.g.has 'q' then pure ()
  else if s.g.has 'l' then
    if !found.isEmpty then Program.printText (name ++ nameEnd)
  else if s.g.has 'L' then
    if found.isEmpty then Program.printText (name ++ nameEnd)
  else if s.g.has 'c' then
    let lead := if s.titled then name ++ ":" else ""
    Program.printText (lead ++ toString found.length ++ "\n")
  else if isBinary then
    if !found.isEmpty then Program.complain (name ++ ": binary file matches")
  else s.printFound search path lines found
  return !found.isEmpty

def numberGiven (g : Given) (letter : Char) (wording : String → String) :
    Program (Option Nat) := do
  match g.value? letter with
  | none => return none
  | some value =>
    match decimal? value with
    | some n => return some n
    | none => refuseSearch (wording value)

def searchFiles (kind : Char) (arguments : List String) : Program Unit := do
  let arguments := arguments.map fun s => if s.startsWith "--color" then "-U" else s
  let arguments := arguments.flatMap fun s =>
    let digits := s.toList.drop 1
    if s.startsWith "-" && !digits.isEmpty && digits.all Char.isDigit then
      ["-C", String.ofList digits]
    else [s]
  let g ← readGiven searchOptions searchFailure false (arguments.length + 1) arguments
  let context (s : String) : String := s ++ ": invalid context length argument"
  let both := (← numberGiven g 'C' context).getD 0
  let before := (← numberGiven g 'B' context).getD both
  let after := (← numberGiven g 'A' context).getD both
  let most ← numberGiven g 'm' fun _ => "invalid max count"
  let (patterns, operands) ← readPatternsOf (patternKind kind g) g
  let search : LineSearch := ⟨patterns, g.has 'i' || g.has 'y', g.has 'x', g.has 'w'⟩
  let recursive := g.has 'r' || g.has 'R'
  let isImplicit := recursive && operands.isEmpty
  let operands := if operands.isEmpty then (if recursive then ["."] else ["-"]) else operands
  let paths := (← operands.mapM (searchedPaths g recursive true treeDepth)).flatten
  let paths := paths.map fun path =>
    if isImplicit then String.ofList (path.toList.drop 2) else path
  let isWide ← match operands with
    | [path] => if recursive then Program.isDirectory path else pure false
    | _ => pure true
  let titled := (isWide || g.has 'H') && !g.has 'h'
  let style : SearchStyle := ⟨g, titled, before, after, most⟩
  let (found, failed) ← paths.foldlM (fun (s : Bool × Bool) path => do
    if s.1 && g.has 'q' then return s
    match ← readOperand? path with
    | .ok b => return (s.1 || (← style.search search path b), s.2)
    | .error fault =>
      if !g.has 's' then Program.complain (path ++ ": " ++ faultWording fault)
      return (s.1, true)) (false, false)
  Program.setStatus
    (if failed && !(found && g.has 'q') then searchFailure else if found then 0 else 1)

end FlashImage.Shell
