import FlashImage.Shell.Word

/-!
How scripts are read: line by line, where commands may take more than one line.

A mistake keeps the line that it is on and all behind it from running.
-/

set_option autoImplicit false
set_option relaxedAutoImplicit false

namespace FlashImage.Shell

def keywords : List String :=
  ["!", "case", "do", "done", "elif", "else", "esac", "fi", "for", "if", "in", "then", "until",
    "while", "\x7b", "\x7d"]

def listEnds : List String :=
  [")", ";;", "do", "done", "elif", "else", "esac", "fi", "then", "\x7d"]

/-- The commands of the shell that scripts cannot define. At their failure a script ends. -/
def specialCommands : List String :=
  [".", ":", "break", "continue", "eval", "exec", "exit", "export", "local", "readonly", "return",
    "set", "shift", "times", "trap", "unset"]

def Token.endsList : Token → Bool
  | .keyword name => listEnds.contains name
  | .operator sign => listEnds.contains sign
  | .ending => true
  | _ => false

def Word.assignment? (w : Word) : Option (String × Word) :=
  let chars := w.takeWhile isPlain
  let name := chars.takeWhile isNamePart
  match Word.plainText? name, w.drop name.length with
  | some s, .plain '=' :: value => if isName s then some (s, value) else none
  | _, _ => none
where
  isPlain : Part → Bool
    | .plain _ => true
    | _ => false
  isNamePart : Part → Bool
    | .plain c => Ron.isNameChar c
    | _ => false

def skipBlanks : Reader Unit := do
  let _ ← Reader.takeWhile fun c => c = ' ' ∨ c = '\t'
  if (← Reader.peek) = some '#' then
    Reader.drop ((← get).rest.takeWhile (· ≠ '\n')).length

def scanRedirect (descriptor : Option Nat) : Reader Token := do
  let signs := ["<<-", "<<", "<&", "<>", "<", ">>", ">&", ">|", ">"]
  let rest := (← get).rest
  let sign := (signs.find? fun sign => sign.toList.isPrefixOf rest).getD ">"
  Reader.drop sign.length
  return .redirect descriptor sign

/-- Reads a sign between commands, with a second character that makes it another one. -/
def scanOperator (c second : Char) : Reader Token := do
  Reader.drop 1
  if ← Reader.accept second then return .operator (String.ofList [c, second])
  else return .operator c.toString

def scanToken (word : Reader Word) : Reader Token := do
  skipBlanks
  match ← Reader.peek with
  | none => return .ending
  | some c =>
    if c = '\n' then
      Reader.drop 1
      return .newline
    else if c = '&' ∨ c = '|' ∨ c = ';' then scanOperator c c
    else if c = '(' ∨ c = ')' then
      Reader.drop 1
      return .operator c.toString
    else if c = '<' ∨ c = '>' then scanRedirect none
    else
      match (← get).rest with
      | d :: e :: _ =>
        if d.isDigit && (e = '<' || e = '>') then
          Reader.drop 1
          scanRedirect (some (d.toNat - '0'.toNat))
        else return .word (← word)
      | _ => return .word (← word)

/-- The kinds of lists of commands. -/
inductive ListKind
  /-- The commands up to the end of the line. -/
  | line
  /-- The commands up to a keyword or sign, at least one. -/
  | compound
  /-- The commands up to a keyword or sign, if any. -/
  | inner
  deriving DecidableEq, Repr

abbrev ListReader := ListKind → Reader Command

def ListReader.word (list : ListReader) : Reader Word := readWord (list .inner)

def rawToken (list : ListReader) : Reader Token := do
  match ← Reader.kept? with
  | some t => return t
  | none => scanToken list.word

/-- Reads the next token. It may be asked for as a keyword, and line breaks may be skipped. -/
def nextToken (list : ListReader) (asKeyword skipLines : Bool) : Reader Token := do
  let skip (t : Token) : Reader (Token ⊕ Token) := do
    match t with
    | .newline =>
      if skipLines then
        readDocuments (list .inner)
        return .inl (← scanToken list.word)
      else return .inr t
    | t => return .inr t
  let t ← Reader.iterate skip (← Reader.limit) (← rawToken list)
  match t with
  | .word w =>
    match w.plainText? with
    | some s => return if asKeyword && keywords.contains s then .keyword s else t
    | none => return t
  | t => return t

def expect (list : ListReader) (sign : String) : Reader Unit := do
  let t ← nextToken list true false
  if !t.is sign then Reader.unexpected t (some sign)

def readTarget (list : ListReader) (descriptor : Option Nat) (sign : String) :
    Reader Redirection := do
  let word : Reader Word := do
    match ← nextToken list false false with
    | .word w => return w
    | t => Reader.unexpected t none
  let document (indented : Bool) : Reader Redirection := do
    match ← scanToken readDelimiter with
    | .word w => return .mk (descriptor.getD 0) .document (← announce w indented)
    | t => Reader.unexpected t none
  match sign with
  | "<<" => document false
  | "<<-" => document true
  | "<" => return .mk (descriptor.getD 0) .read (← word)
  | "<>" => return .mk (descriptor.getD 0) .update (← word)
  | "<&" => return .mk (descriptor.getD 0) .copyInput (← word)
  | ">&" => return .mk (descriptor.getD 1) .copyOutput (← word)
  | ">>" => return .mk (descriptor.getD 1) .append (← word)
  | ">|" => return .mk (descriptor.getD 1) .overwrite (← word)
  | _ => return .mk (descriptor.getD 1) .write (← word)

def readRedirections (list : ListReader) : Reader (List Redirection) := do
  let step (rs : List Redirection) : Reader (List Redirection ⊕ List Redirection) := do
    match ← nextToken list true false with
    | .redirect descriptor sign => return .inl ((← readTarget list descriptor sign) :: rs)
    | t =>
      Reader.keep t
      return .inr rs.reverse
  Reader.iterate step (← Reader.limit) []

/-- A simple command that is being read, the last parts first. -/
structure SimpleParts where
  assignments : List (String × Word)
  words : List Word
  redirections : List Redirection

/-- Reads the definition of a function behind the opening bracket. -/
def readDefinition (list : ListReader) (command : Reader Command) (name : Word) :
    Reader Command := do
  let t ← nextToken list false false
  if !t.is ")" then Reader.unexpected t (some ")")
  match name.plainText? with
  | some s =>
    if isName s && !specialCommands.contains s then
      let line := (← get).line
      Reader.keep (← nextToken list true true)
      return .define line s (← command)
    else Reader.fail "Bad function name"
  | none => Reader.fail "Bad function name"

def readSimple (list : ListReader) (command : Reader Command) : Reader Command := do
  let line := (← get).line
  let finish (p : SimpleParts) : Command :=
    .simple line p.assignments.reverse p.words.reverse p.redirections.reverse
  let step (p : SimpleParts) : Reader (SimpleParts ⊕ Command) := do
    match ← nextToken list false false with
    | .word w =>
      match p.words, w.assignment? with
      | [], some a => return .inl { p with assignments := a :: p.assignments }
      | _, _ => return .inl { p with words := w :: p.words }
    | .redirect descriptor sign =>
      let r ← readTarget list descriptor sign
      return .inl { p with redirections := r :: p.redirections }
    | .operator "(" =>
      match p.assignments, p.words, p.redirections with
      | [], [name], [] => return .inr (← readDefinition list command name)
      | _, _, _ =>
        Reader.keep (.operator "(")
        return .inr (finish p)
    | t =>
      Reader.keep t
      return .inr (finish p)
  Reader.iterate step (← Reader.limit) ⟨[], [], []⟩

def readBranch (list : ListReader) : (limit : Nat) → Reader Command
  | 0 => Reader.fail "end of file unexpected"
  | limit + 1 => do
    let condition ← list .compound
    expect list "then"
    let yes ← list .compound
    match ← nextToken list true false with
    | .keyword "elif" => return .branch condition yes (← readBranch list limit)
    | .keyword "else" => return .branch condition yes (← list .compound)
    | t =>
      Reader.keep t
      return .branch condition yes .nothing

/-- Reads the words of a repetition for each of them, if they are given. -/
def readSubjects (list : ListReader) : Reader (List Word) := do
  let step (words : List Word) : Reader (List Word ⊕ List Word) := do
    match ← nextToken list false false with
    | .word w => return .inl (w :: words)
    | .newline => do
      Reader.keep .newline
      return .inr words.reverse
    | .operator ";" => return .inr words.reverse
    | t => Reader.unexpected t none
  match ← nextToken list true true with
  | .keyword "in" => Reader.iterate step (← Reader.limit) []
  | t =>
    if !t.is ";" then Reader.keep t
    return [[.parameter "@" .value true]]

def readEach (list : ListReader) (line : Nat) : Reader Command := do
  match ← nextToken list false false with
  | .word w =>
    match w.plainText? with
    | some name =>
      if !isName name then Reader.fail "Bad for loop variable"
      let words ← readSubjects list
      let t ← nextToken list true true
      if !t.is "do" then Reader.unexpected t (some "do")
      return .each line name words (← list .compound)
    | none => Reader.fail "Bad for loop variable"
  | _ => Reader.fail "Bad for loop variable"

/-- Reads the patterns of a branch, of which the first token has been read. -/
def readPatterns (list : ListReader) (first : Token) : Reader (List Word) := do
  let wordOf (t : Token) : Word :=
    match t with
    | .word w => w
    | .keyword name => name.toList.map .plain
    | _ => []
  let step (words : List Word) : Reader (List Word ⊕ List Word) := do
    match ← nextToken list false false with
    | .operator "|" => return .inl (wordOf (← nextToken list false false) :: words)
    | .operator ")" => return .inr words.reverse
    | t => Reader.unexpected t (some ")")
  Reader.iterate step (← Reader.limit) [wordOf first]

/-- Reads the branches of a choice, with the keyword that ends them. -/
def readBranches (list : ListReader) : (limit : Nat) → Reader (List (List Word × Command))
  | 0 => Reader.fail "end of file unexpected"
  | limit + 1 => do
    let t ← nextToken list true true
    if t.is "esac" then return []
    let first ← if t.is "(" then nextToken list false false else pure t
    let patterns ← readPatterns list first
    let body ← list .inner
    let t ← nextToken list true true
    if t.is "esac" then return [(patterns, body)]
    else if t.is ";;" then return (patterns, body) :: (← readBranches list limit)
    else Reader.unexpected t (some ";;")

def readChoice (list : ListReader) (line : Nat) : Reader Command := do
  match ← nextToken list false false with
  | .word w =>
    let t ← nextToken list true true
    if !t.is "in" then Reader.unexpected t (some "in")
    return .choose line w (← readBranches list (← Reader.limit))
  | t => Reader.fail (t.shown ++ " unexpected (expecting word)")

def redirected (line : Nat) (c : Command) (rs : List Redirection) : Command :=
  match c, rs with
  | .subshell line c _, rs => .subshell line c rs
  | c, [] => c
  | c, rs => .redirected line c rs

def readCommand (list : ListReader) : (limit : Nat) → Reader Command
  | 0 => Reader.fail "end of file unexpected"
  | limit + 1 => do
    let line := (← get).line
    let close (sign : String) (c : Command) : Reader Command := do
      expect list sign
      return redirected line c (← readRedirections list)
    let loop (untilTrue : Bool) : Reader Command := do
      let condition ← list .compound
      expect list "do"
      return .loop untilTrue condition (← list .compound)
    match ← nextToken list true false with
    | .keyword "if" => close "fi" (← readBranch list (← Reader.limit))
    | .keyword "while" => close "done" (← loop false)
    | .keyword "until" => close "done" (← loop true)
    | .keyword "for" => close "done" (← readEach list line)
    | .keyword "case" =>
      let c ← readChoice list line
      return redirected line c (← readRedirections list)
    | .keyword "\x7b" => close "\x7d" (← list .compound)
    | .operator "(" => close ")" (.subshell line (← list .compound) [])
    | .word w =>
      Reader.keep (.word w)
      readSimple list (readCommand list limit)
    | .redirect descriptor sign =>
      Reader.keep (.redirect descriptor sign)
      readSimple list (readCommand list limit)
    | t => Reader.unexpected t none

/-- Reads commands of which each reads what the one before it writes. -/
def readPipeline (list : ListReader) : Reader Command := do
  let command : Reader Command := do readCommand list (← Reader.limit)
  let step (cs : List Command) : Reader (List Command ⊕ List Command) := do
    let t ← nextToken list false false
    if t.is "|" then
      let t ← nextToken list true true
      Reader.keep t
      return .inl ((← command) :: cs)
    else
      Reader.keep t
      return .inr cs.reverse
  let t ← nextToken list true false
  let isNegated := t.is "!"
  if isNegated then Reader.keep (← nextToken list true false) else Reader.keep t
  let cs ← Reader.iterate step (← Reader.limit) [← command]
  let c :=
    match cs with
    | [c] => c
    | cs => .pipe cs
  return if isNegated then .negated c else c

/-- Reads pipelines of which each depends on the success of those before it. -/
def readJoined (list : ListReader) : Reader Command := do
  let step (c : Command) : Reader (Command ⊕ Command) := do
    let t ← nextToken list false false
    if t.is "&&" || t.is "||" then
      Reader.keep (← nextToken list true true)
      let next ← readPipeline list
      return .inl (if t.is "&&" then .both c next else .either c next)
    else
      Reader.keep t
      return .inr c
  Reader.iterate step (← Reader.limit) (← readPipeline list)

def inBackground (line : Nat) : Command → Command
  | .redirected line c rs => .background line c rs
  | c => .background line c []

def append (c next : Command) : Command :=
  match c with
  | .nothing => next
  | c => .sequence c next

def readListWith (list : ListReader) (kind : ListKind) : Reader Command := do
  let step (s : Command × Bool) : Reader ((Command × Bool) ⊕ Command) := do
    let (c, started) := s
    match ← nextToken list true (kind ≠ .line) with
    | .newline =>
      readDocuments (list .inner)
      return .inr c
    | .ending =>
      readDocuments (list .inner)
      Reader.keep .ending
      return .inr c
    | t =>
      Reader.keep t
      if kind ≠ .line && (started || kind = .inner) && t.endsList then return .inr c
      let line := (← get).line
      let next ← readJoined list
      let t ← nextToken list false false
      let next := if t.is "&" then inBackground line next else next
      let c := append c next
      if t.is "&" || t.is ";" then return .inl (c, true)
      match t with
      | .newline =>
        Reader.keep t
        return .inl (c, true)
      | .ending =>
        Reader.keep t
        return .inl (c, true)
      | t =>
        if kind = .line then Reader.unexpected t none
        Reader.keep t
        return .inr c
  Reader.iterate step (← Reader.limit) (.nothing, false)

/-- Reads a list of commands, down to a depth of commands in commands. -/
def readList : (depth : Nat) → ListReader
  | 0, _ => Reader.fail "end of file unexpected"
  | depth + 1, kind => readListWith (readList depth) kind

/-- A script from a line on. -/
structure Script where
  rest : List Char
  line : Nat

/-- What is next in a script. -/
inductive Script.Next
  | ending
  | command (c : Command) (rest : Script)
  | fault (f : SyntaxFault)

def Script.ofText (s : String) : Script := ⟨s.toList, 1⟩

/-- The number of times that a line with here-documents is read. A document in a document takes one
more. -/
def readings : Nat := 3

/-- Reads the next line of a script so many times, where `known` has the texts of documents. -/
def Script.read (s : Script) : (times : Nat) → (known : List (Nat × Word)) → Script.Next
  | 0, _ => .ending
  | times + 1, known =>
    let start : ReaderState := ⟨s.rest, s.line, none, [], 0, [], known⟩
    match readList (s.rest.length + 2) .line start with
    | .error f => .fault f
    | .ok (c, t) =>
      if t.documents ≠ 0 ∧ times ≠ 0 then s.read times t.found
      else
        match c, t.ahead with
        | .nothing, some .ending => .ending
        | c, _ => .command c ⟨t.rest, t.line⟩

def Script.next (s : Script) : Script.Next := s.read (readings + 1) []

end FlashImage.Shell
