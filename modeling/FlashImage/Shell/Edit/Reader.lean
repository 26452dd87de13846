import FlashImage.Shell.Edit.Basic
import FlashImage.Shell.Print
import FlashImage.Shell.Regex.Reader

/-!
How the commands of the editor of lines are written.
-/

set_option autoImplicit false
set_option relaxedAutoImplicit false

namespace FlashImage.Shell

namespace EditCommand

/-- A step of reading commands, with the text that is left also behind a failure. -/
abbrev Reading (α : Type) := ExceptT String (StateM (List Char)) α

def skipBlanks : Reading Unit := modify (·.dropWhile fun c => c = ' ' || c = '\t')

def skipEnds : Reading Unit :=
  modify (·.dropWhile fun c => c = ' ' || c = '\t' || c = '\n' || c = ';')

def peek : Reading (Option Char) := do return (← get).head?

def drop : Reading Unit := modify List.tail

def takeWhile (p : Char → Bool) : Reading (List Char) := do
  let s ← get
  set (s.dropWhile p)
  return s.takeWhile p

def number? : Reading (Option Nat) := do
  return decimal? (String.ofList (← takeWhile Char.isDigit))

/-- Splits a text at the next delimiter that stands for itself. In brackets it does if `inSets`
says so. -/
def splitDelimited (delimiter : Char) (isRegex : Bool) : (limit : Nat) → (inSet : Bool) →
    List Char → Option (List Char × List Char)
  | 0, _, _ => none
  | _, _, [] => none
  | limit + 1, inSet, c :: rest =>
    let push (cs : List Char) (r : Option (List Char × List Char)) :
        Option (List Char × List Char) :=
      r.map fun (text, behind) => (cs ++ text, behind)
    if c = delimiter ∧ !inSet then some ([], rest)
    else
      match c, rest with
      | '\\', d :: behind =>
        if inSet then push ['\\'] (splitDelimited delimiter isRegex limit inSet rest)
        else if d = delimiter then
          push [d] (splitDelimited delimiter isRegex limit false behind)
        else if d = '\n' && isRegex then
          push ['\n'] (splitDelimited delimiter isRegex limit false behind)
        else push ['\\', d] (splitDelimited delimiter isRegex limit false behind)
      | '[', rest =>
        if isRegex && !inSet then
          let (start, behind) := setStart rest
          push ('[' :: start) (splitDelimited delimiter isRegex limit true behind)
        else push ['['] (splitDelimited delimiter isRegex limit inSet rest)
      | ']', rest => push [']'] (splitDelimited delimiter isRegex limit false rest)
      | c, rest => push [c] (splitDelimited delimiter isRegex limit inSet rest)
where
  setStart (s : List Char) : List Char × List Char :=
    let (a, s) := if s.head? = some '^' then (['^'], s.tail) else ([], s)
    if s.head? = some ']' then (a ++ [']'], s.tail) else (a, s)

def escapedChar? : Char → Option Char
  | 'a' => some '\x07'
  | 'f' => some '\x0c'
  | 'n' => some '\n'
  | 'r' => some '\x0d'
  | 't' => some '\t'
  | 'v' => some '\x0b'
  | _ => none

/-- The character that a number behind a backslash and a letter stands for, and what follows. -/
def numberedChar? (letter : Char) (rest : List Char) : Option (Char × List Char) :=
  let read (base count : Nat) : Option (Char × List Char) :=
    match takeDigits base count rest with
    | ([], _) => none
    | (digits, rest) => some (byteChar (valueOf base digits), rest)
  match letter with
  | 'd' => read 10 3
  | 'o' => read 8 3
  | 'x' => read 16 2
  | _ => none

/-- Puts characters in the place of what stands for them in an expression. -/
def withBreaks : (limit : Nat) → List Char → List Char
  | 0, s => s
  | limit + 1, '\\' :: c :: rest =>
    let isSpecial (d : Char) : Bool := "^$.*[]\\/+?()|".toList.contains d
    match escapedChar? c, numberedChar? c rest with
    | some d, _ => d :: withBreaks limit rest
    | none, some (d, rest) =>
      (if isSpecial d then ['\\', d] else [d]) ++ withBreaks limit rest
    | none, none => '\\' :: c :: withBreaks limit rest
  | limit + 1, c :: rest => c :: withBreaks limit rest
  | _, [] => []

/-- Reads an expression. An empty one stands for that which has been used last. -/
def regexOf (extended : Bool) (text : List Char) : Reading (Option Regex × Nat) := do
  if text.isEmpty then return (none, 9)
  match Regex.read extended false (String.ofList (withBreaks text.length text)) with
  | .ok (r, groups) => return (some r, groups)
  | .error wording => throw wording

def delimited (delimiter : Char) (isRegex : Bool) (wording : String) : Reading (List Char) := do
  let s ← get
  match splitDelimited delimiter isRegex (s.length + 1) false s with
  | some (text, rest) =>
    set rest
    return text
  | none =>
    set ([] : List Char)
    throw wording

def address? (extended : Bool) : Reading (Option LineAddress) := do
  match ← peek with
  | some '$' =>
    drop
    return some .last
  | some '/' =>
    drop
    return some (← fitting '/')
  | some '\\' =>
    drop
    match ← peek with
    | some d =>
      drop
      return some (← fitting d)
    | none => throw "unterminated address regex"
  | some c =>
    if !c.isDigit then return none
    let n := (← number?).getD 0
    if (← peek) = some '~' then
      drop
      return some (.every n ((← number?).getD 0))
    return some (.number n)
  | none => return none
where
  fitting (delimiter : Char) : Reading LineAddress := do
    let text ← delimited delimiter true "unterminated address regex"
    let flags ← takeWhile fun c => c = 'I' || c = 'M'
    return .fitting (← regexOf extended text).1 (flags.contains 'I')

def choiceOf (extended : Bool) : Reading LineChoice := do
  match ← address? extended with
  | none => return .all
  | some first =>
    skipBlanks
    if (← peek) ≠ some ',' then return .single first
    drop
    skipBlanks
    match ← peek with
    | some '+' =>
      drop
      return .range first (.count ((← number?).getD 0))
    | some '~' =>
      drop
      return .range first (.multiple ((← number?).getD 0))
    | _ =>
      match ← address? extended with
      | some stop => return .range first (.address stop)
      | none =>
        drop
        throw "unexpected `,'"

def replacementParts : (limit : Nat) → List Char → List ReplacementPart
  | 0, _ => []
  | _, [] => []
  | limit + 1, '\\' :: c :: rest =>
    match numberedChar? c rest with
    | some (d, rest) => .text d.toString :: replacementParts limit rest
    | none =>
      let part : ReplacementPart :=
        match c with
        | 'U' => .letters .upper
        | 'L' => .letters .lower
        | 'E' => .letters .none
        | 'u' => .letters .upperNext
        | 'l' => .letters .lowerNext
        | c =>
          if c.isDigit then .group (c.toNat - '0'.toNat)
          else .text ((escapedChar? c).getD c).toString
      part :: replacementParts limit rest
  | limit + 1, '&' :: rest => .group 0 :: replacementParts limit rest
  | limit + 1, c :: rest => .text c.toString :: replacementParts limit rest

def fileName : Reading String := do
  skipBlanks
  let name ← takeWhile (· ≠ '\n')
  if name.isEmpty then throw "missing filename in r/R/w/W commands"
  return String.ofList name

def substitutionFlags (s : Substitution) : (limit : Nat) → Reading Substitution
  | 0 => return s
  | limit + 1 => do
    match ← peek with
    | some 'g' =>
      drop
      if s.everywhere then throw "multiple `g' options to `s' command"
      substitutionFlags { s with everywhere := true } limit
    | some 'p' =>
      drop
      if s.prints then throw "multiple `p' options to `s' command"
      substitutionFlags { s with prints := true } limit
    | some 'i' =>
      drop
      substitutionFlags { s with foldsCase := true } limit
    | some 'I' =>
      drop
      substitutionFlags { s with foldsCase := true } limit
    | some 'm' =>
      drop
      substitutionFlags { s with hasLines := true } limit
    | some 'M' =>
      drop
      substitutionFlags { s with hasLines := true } limit
    | some 'w' =>
      drop
      return { s with file := some (← fileName) }
    | some c =>
      if c.isDigit then
        match ← number? with
        | some 0 => throw "number option to `s' command may not be zero"
        | n => substitutionFlags { s with number := n.getD 1 } limit
      else return s
    | none => return s

def substitutionOf (extended : Bool) : Reading Substitution := do
  let wording := "unterminated `s' command"
  match ← peek with
  | none => throw wording
  | some delimiter =>
    drop
    if delimiter = '\n' || delimiter = '\\' then throw wording
    let pattern ← delimited delimiter true wording
    let replacement ← delimited delimiter false wording
    let parts := replacementParts replacement.length replacement
    let s ← substitutionFlags ⟨none, false, false, parts, false, 1, false, none⟩ 20
    match ← peek with
    | none => pure ()
    | some c =>
      if c = '\n' || c = ';' then drop
      else if c ≠ '\x7d' && c ≠ '#' then
        skipBlanks
        match ← peek with
        | none => pure ()
        | some c =>
          drop
          if c ≠ '\n' && c ≠ ';' then
            if c = '\x7d' || c = '#' then modify (c :: ·)
            else throw "unknown option to `s'"
    let (regex, groups) ← regexOf extended pattern
    let isMissing : ReplacementPart → Option Nat
      | .group n => if groups < n then some n else none
      | _ => none
    match parts.findSome? isMissing with
    | some n => throw ("invalid reference \\" ++ toString n ++ " on `s' command's RHS")
    | none => pure ()
    return { s with regex := regex }

/-- Takes the text of a command that adds it, where backslashes join lines. -/
def addedText : Reading String := do
  skipBlanks
  if (← peek) = some '\\' then
    drop
    let s ← get
    match s.dropWhile fun c => c = ' ' || c = '\t' with
    | '\n' :: rest => set rest
    | _ => pure ()
    if (← get).isEmpty then return ""
  else if (← get).isEmpty then throw "expected \\ after `a', `c' or `i'"
  let s ← get
  let (text, rest) := split (s.length + 1) s
  set rest
  return String.ofList text ++ "\n"
where
  split : Nat → List Char → List Char × List Char
    | 0, s => ([], s)
    | _, [] => ([], [])
    | _, '\n' :: rest => ([], rest)
    | limit + 1, '\\' :: c :: rest =>
      let (text, behind) := split limit rest
      ((escapedChar? c).getD c :: text, behind)
    | limit + 1, c :: rest =>
      let (text, behind) := split limit rest
      (c :: text, behind)

def labelName : Reading String := do
  skipBlanks
  let name ← takeWhile fun c => c ≠ '\n' && c ≠ ';' && c ≠ '\x7d'
  return String.ofList (name.reverse.dropWhile (· = ' ')).reverse

/-- Reads the pairs of characters of a translation behind its letter. -/
def translationPairs : Reading (List (Char × Char)) := do
  let wording := "unterminated `y' command"
  match ← peek with
  | none => throw wording
  | some delimiter =>
    drop
    let a := unescape (← delimited delimiter false wording)
    let b := unescape (← delimited delimiter false wording)
    if a.length ≠ b.length then throw "strings for `y' command are different lengths"
    return a.zip b
where
  unescape : List Char → List Char
    | '\\' :: 'n' :: rest => '\n' :: unescape rest
    | '\\' :: 't' :: rest => '\t' :: unescape rest
    | '\\' :: '\\' :: rest => '\\' :: unescape rest
    | c :: rest => c :: unescape rest
    | [] => []

def actionOf (extended : Bool) (letter : Char) : Reading EditAction := do
  match letter with
  | 'a' => return .add .behind (← addedText)
  | 'i' => return .add .before (← addedText)
  | 'c' => return .add .instead (← addedText)
  | 'b' => return .branch (← labelName)
  | 't' => return .branchIf true (← labelName)
  | 'T' => return .branchIf false (← labelName)
  | ':' =>
    let name ← labelName
    if name.isEmpty then throw "\":\" lacks a label"
    return .label name
  | 'd' => return .delete
  | 'D' => return .deleteFirst
  | '=' => return .showNumber
  | 'F' => return .showName
  | 'g' => return .copyHeld
  | 'G' => return .appendHeld
  | 'h' => return .hold
  | 'H' => return .appendToHeld
  | 'x' => return .exchange
  | 'l' =>
    skipBlanks
    return .list (← number?)
  | 'n' => return .next
  | 'N' => return .appendNext
  | 'p' => return .print
  | 'P' => return .printFirst
  | 'q' =>
    skipBlanks
    return .quit ((← number?).getD 0) true
  | 'Q' =>
    skipBlanks
    return .quit ((← number?).getD 0) false
  | 'r' => return .readFile (← fileName)
  | 'R' => return .readLine (← fileName)
  | 's' => return .substitute (← substitutionOf extended)
  | 'w' => return .writeFile (← fileName)
  | 'W' => return .writeFirst (← fileName)
  | 'y' => return .translate (← translationPairs)
  | 'z' => return .clear
  | 'v' =>
    let _ ← labelName
    return .nothing
  | c => throw ("unknown command: `" ++ c.toString ++ "'")

def checkEnd (action : EditAction) : Reading Unit := do
  let isClosed : Bool :=
    match action with
    | .add _ _ => true
    | .substitute _ => true
    | _ => false
  if !isClosed then
    skipBlanks
    match ← peek with
    | none => return ()
    | some c =>
      if c = '\n' || c = ';' then drop
      else if c ≠ '\x7d' && c ≠ '#' then
        drop
        throw "extra characters after command"

def openBlock : String := "unmatched `\x7b'"

/-- Whether lines are chosen by the number zero where that has no meaning. -/
def choosesZero : LineChoice → Bool
  | .single (.number 0) => true
  | .range (.number 0) (.address (.fitting _ _)) => false
  | .range (.number 0) _ => true
  | _ => false

def commandList (extended inBlock : Bool) : (limit : Nat) → Reading (List EditCommand)
  | 0 => return []
  | limit + 1 => do
    skipEnds
    match ← peek with
    | none => if inBlock then throw openBlock else return []
    | some '#' =>
      let _ ← takeWhile (· ≠ '\n')
      commandList extended inBlock limit
    | some '\x7d' =>
      drop
      if !inBlock then throw "unexpected `\x7d'"
      checkEnd .nothing
      return []
    | _ =>
      let choice ← choiceOf extended
      skipBlanks
      let negated := (← peek) = some '!'
      if negated then
        drop
        skipBlanks
        if (← peek) = some '!' then
          drop
          throw "multiple `!'s"
      if choosesZero choice then
        drop
        throw "invalid usage of line address 0"
      match ← peek with
      | none => throw "missing command"
      | some '\x7b' =>
        drop
        let body ← commandList extended true limit
        let others ← commandList extended inBlock limit
        return ⟨choice, negated, .block body.length⟩ :: body ++ others
      | some letter =>
        drop
        let action ← actionOf extended letter
        checkEnd action
        let others ← commandList extended inBlock limit
        return ⟨choice, negated, action⟩ :: others

def missingLabel? (commands : List EditCommand) : Option String :=
  let labels := commands.filterMap fun c => match c.action with
    | .label name => some name
    | _ => none
  commands.findSome? fun c =>
    let check (name : String) : Option String :=
      if name.isEmpty || labels.contains name then none else some name
    match c.action with
    | .branch name => check name
    | .branchIf _ name => check name
    | _ => none

/-- A part of a script, with the path of the file that it is from if it is from one. -/
structure Piece where
  file : Option String
  text : String

/-- The wording for a place in a script that is made of parts. The number of parts without a file so
far is counted. -/
def placeOf (wording : String) : (count : Nat) → (position : Nat) → List Piece → String
  | _, _, [] => ""
  | count, position, p :: rest =>
    if p.text.length < position && !rest.isEmpty then
      placeOf wording (if p.file.isNone then count + 1 else count)
        (position - p.text.length - 1) rest
    else
      match p.file with
      | some path =>
        let lines := ((p.text.toList.take position).filter (· = '\n')).length
        "file " ++ path ++ " line " ++ toString (lines + 1) ++ ": "
      | none =>
        let shown := if wording = openBlock then 0 else position
        "-e expression #" ++ toString (count + 1) ++ ", char " ++ toString shown ++ ": "

/-- Why a script cannot be used, and the status for that. -/
structure Fault where
  status : Nat
  wording : String

def severeStatus : Nat := 4

def readAll (extended : Bool) (pieces : List Piece) : Except Fault (List EditCommand) := do
  let chars := ("\n".intercalate (pieces.map (·.text))).toList
  match (commandList extended false (2 * chars.length + 2)).run.run chars with
  | (.error wording, rest) =>
    throw ⟨1, placeOf wording 0 (chars.length - rest.length) pieces ++ wording⟩
  | (.ok commands, _) =>
    match missingLabel? commands with
    | some name => throw ⟨severeStatus, "can't find label for jump to `" ++ name ++ "'"⟩
    | none => return commands

end EditCommand
end FlashImage.Shell
