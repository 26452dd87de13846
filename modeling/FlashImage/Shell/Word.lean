import FlashImage.Shell.Reader

/-!
How the words of scripts are read: quotes, parameters, and commands in words.

How a list of commands is read is an argument. The token behind the list is kept.
-/

set_option autoImplicit false
set_option relaxedAutoImplicit false

namespace FlashImage.Shell

/-- Where in a script a part of a word stands. -/
inductive Place
  | bare
  /-- Behind the name of a parameter, in double quotes or not. -/
  | braces (inDouble : Bool)
  | double
  | document
  /-- In an expression, within so many brackets. -/
  | expression (depth : Nat)
  deriving DecidableEq, Repr

def Place.quoted : Place → Bool
  | .bare => false
  | .braces inDouble => inDouble
  | _ => true

def endsWord (c : Char) : Bool := " \t\n<>();&|".toList.contains c

def isOrdinary (c : Char) : Bool := !"\\$`\"\x7d()".toList.contains c

def Place.unclosed : Place → String
  | .braces false => "Missing '\x7d'"
  | .expression _ => "Missing '))'"
  | _ => "Unterminated quoted string"

def Place.escapes (p : Place) (c : Char) : Bool :=
  match p with
  | .bare => true
  | .braces false => true
  | .braces true => "\\`$\"\x7d".toList.contains c
  | .document => "\\`$".toList.contains c
  | _ => "\\`$\"".toList.contains c

def Place.part (p : Place) (c : Char) : Part := if p.quoted then .fixed c.toString else .plain c

def readBackquoted (double : Bool) : Reader (List Char) := do
  let step (text : List Char) : Reader (List Char ⊕ List Char) := do
    match ← Reader.peek with
    | none => Reader.fail "EOF in backquote substitution"
    | some '`' =>
      Reader.drop 1
      return .inr text.reverse
    | some '\\' =>
      Reader.drop 1
      match (← get).rest with
      | [] => Reader.fail "EOF in backquote substitution"
      | c :: _ =>
        Reader.drop 1
        let escapes := c = '\\' || c = '`' || c = '$' || (double && c = '"')
        return .inl (if escapes then c :: text else c :: '\\' :: text)
    | some c =>
      Reader.drop 1
      return .inl (c :: text)
  Reader.iterate step (← Reader.limit) []

/-- Reads the operator behind the name of a parameter, and what follows it. `word` reads a word up
to the closing bracket. -/
def readUse (place : Place) (word : Place → Reader Word) : Reader Use := do
  let colon ← Reader.accept ':'
  let fallback (kind : Fallback) : Reader Use := do
    Reader.drop 1
    return .fallback kind colon (← word (.braces place.quoted))
  let unknown : Reader Use := do
    let _ ← word (.braces place.quoted)
    return .unknown
  match ← Reader.peek with
  | some '-' => fallback .use
  | some '=' => fallback .assign
  | some '?' => fallback .refuse
  | some '+' => fallback .alternative
  | some c =>
    if colon then unknown
    else if c = '\x7d' then
      Reader.drop 1
      return .value
    else if c = '#' ∨ c = '%' then
      Reader.drop 1
      let longest ← Reader.accept c
      return .trim (c == '%') longest (← word (.braces false))
    else unknown
  | none => unknown

def readParameterName : Reader (Option String) := do
  match ← Reader.peek with
  | some c =>
    if Ron.isNameStart c then return some (String.ofList (← Reader.takeWhile Ron.isNameChar))
    else if c.isDigit then return some (String.ofList (← Reader.takeWhile Char.isDigit))
    else if isSpecialParameter c then
      Reader.drop 1
      return some c.toString
    else return none
  | none => return none

/-- Reads the name of a parameter that is measured, and the bracket behind it. A sign in front of
the bracket that is no name is empty. -/
def readMeasured : Reader (Option String) := do
  let name ← readParameterName
  let sign : Option String ←
    match name, ← Reader.peek with
    | none, some c => do
      Reader.drop 1
      pure (if c = '\x7d' then none else some "")
    | name, _ => pure name
  return if ← Reader.accept '\x7d' then sign else none

/-- Reads a parameter behind an opening bracket. A number sign stands in front of a name whose
value is measured, if nothing follows that, and else is a name. -/
def readBraced (place : Place) (word : Place → Reader Word) : Reader Part := do
  let start ← get
  let sized ← if ← Reader.accept '#' then readMeasured else pure none
  match sized with
  | some "" => return .parameter "" .unknown place.quoted
  | some name => return .parameter name .size place.quoted
  | none =>
    set start
    match ← readParameterName with
    | some name =>
      let use ← readUse place word
      return .parameter name use place.quoted
    | none =>
      let _ ← word (.braces place.quoted)
      return .parameter "" .unknown place.quoted

/-- Reads a list of commands and the bracket behind it. The texts of its documents end with it. -/
def readOutput (body : Reader Command) : Reader Command := do
  let outer := (← get).announced
  modify fun s => { s with announced := [] }
  let c ← body
  let t := (← Reader.kept?).getD .ending
  if !t.is ")" then Reader.unexpected t (some ")")
  modify fun s => { s with announced := outer }
  return c

def readDollar (body : Reader Command) (place : Place) (word : Place → Reader Word) :
    Reader Part := do
  Reader.drop 1
  match ← Reader.peek with
  | some '(' =>
    Reader.drop 1
    if ← Reader.accept '(' then return .value (← word (.expression 0)) place.quoted
    else return .output (← readOutput body) place.quoted
  | some '\x7b' =>
    Reader.drop 1
    readBraced place word
  | some c =>
    if Ron.isNameStart c then
      let name ← Reader.takeWhile Ron.isNameChar
      return .parameter (String.ofList name) .value place.quoted
    else if isSpecialParameter c then
      Reader.drop 1
      return .parameter c.toString .value place.quoted
    else return place.part '$'
  | none => return place.part '$'

/-- A text in quotes, which is there even if it is empty. Only all arguments in quotes may be none.
-/
def quotedParts : Word → Word
  | [.parameter "@" .value true] => [.parameter "@" .value true]
  | parts => .fixed "" :: parts

def readOldOutput (body : Reader Command) (place : Place) : Reader Part := do
  Reader.drop 1
  let text ← readBackquoted place.quoted
  return .output (← Reader.within text (← get).line body) place.quoted

/-- Reads what a quote or a backslash starts in a place without quotes. -/
def readQuoted (word : Place → Reader Word) (c : Char) : Reader Word := do
  Reader.drop 1
  match c with
  | '\'' =>
    let text := (← get).rest.takeWhile (· ≠ '\'')
    Reader.drop text.length
    if (← get).rest.isEmpty then Reader.fail Place.double.unclosed
    Reader.drop 1
    return [.fixed (String.ofList text)]
  | '"' => return quotedParts (← word .double)
  | _ =>
    match (← get).rest with
    | [] => return [.fixed "\\"]
    | c :: _ =>
      Reader.drop 1
      return [.fixed c.toString]

/-- What a character that may end a place does there. -/
inductive Closing
  /-- It ends the place. -/
  | yes
  /-- It ends the place, and belongs to what follows. -/
  | before
  | no
  deriving DecidableEq, Repr

def Place.closing (p : Place) (c : Char) : Closing :=
  match p with
  | .bare => if endsWord c then .before else .no
  | .braces _ => if c = '\x7d' then .yes else .no
  | .double => if c = '"' then .yes else .no
  | _ => .no

def readParts (body : Reader Command) : (limit : Nat) → Place → Reader Word
  | 0, place => Reader.fail place.unclosed
  | limit + 1, place => do
    let word (p : Place) : Reader Word := readParts body limit p
    let more (parts : Word) (p : Place) : Reader Word := do return parts ++ (← word p)
    match ← Reader.peek with
    | none => if place = .bare ∨ place = .document then return [] else Reader.fail place.unclosed
    | some c =>
      match place.closing c, c, place with
      | .before, _, _ => return []
      | .yes, _, _ =>
        Reader.drop 1
        return []
      | .no, '$', _ => more [← readDollar body place word] place
      | .no, '`', _ => more [← readOldOutput body place] place
      | .no, '(', .expression depth =>
        Reader.drop 1
        more [.fixed "("] (.expression (depth + 1))
      | .no, ')', .expression (depth + 1) =>
        Reader.drop 1
        more [.fixed ")"] (.expression depth)
      | .no, ')', .expression 0 =>
        Reader.drop 1
        if ← Reader.accept ')' then return [] else more [.fixed ")"] place
      | .no, '"', .braces true =>
        Reader.drop 1
        word place
      | .no, _, _ =>
        if place.quoted then
          if c = '\\' then
            Reader.drop 1
            match (← get).rest with
            | [] => more [.fixed "\\"] place
            | d :: _ =>
              Reader.drop 1
              more [.fixed (if place.escapes d then d.toString else String.ofList ['\\', d])] place
          else
            let text := (← get).rest.takeWhile isOrdinary
            Reader.drop (max 1 text.length)
            more [.fixed (if text.isEmpty then c.toString else String.ofList text)] place
        else if c = '\'' ∨ c = '"' ∨ c = '\\' then more (← readQuoted word c) place
        else
          Reader.drop 1
          more [.plain c] place

def readWord (body : Reader Command) : Reader Word := do readParts body (← Reader.limit) .bare

/-- Reads the word that ends a here-document. Dollar signs have no meaning in it. -/
def readDelimiter : Reader Word := do
  let step (parts : Word) : Reader (Word ⊕ Word) := do
    match ← Reader.peek with
    | none => return .inr parts.reverse
    | some c =>
      if endsWord c then return .inr parts.reverse
      else if c = '\'' ∨ c = '"' ∨ c = '\\' then
        let close (_ : Place) : Reader Word := do
          let text := (← get).rest.takeWhile (· ≠ '"')
          Reader.drop (text.length + 1)
          return [.fixed (String.ofList text)]
        return .inl ((← readQuoted close c).reverse ++ parts)
      else
        Reader.drop 1
        return .inl (.plain c :: parts)
  Reader.iterate step (← Reader.limit) []

def delimiterText (w : Word) : String × Bool :=
  (String.join (w.map text), w.any isFixed)
where
  text : Part → String
    | .plain c => c.toString
    | .fixed s => s
    | _ => ""
  isFixed : Part → Bool
    | .fixed _ => true
    | _ => false

def isJoined (line : List Char) : Bool := (line.reverse.takeWhile (· = '\\')).length % 2 = 1

/-- Splits a text behind the line that is the delimiter. The first part has the lines before it. -/
def Document.split (d : Document) : (limit : Nat) → (joined : Bool) → List Char →
    List Char × List Char
  | 0, _, s => ([], s)
  | _ + 1, _, [] => ([], [])
  | limit + 1, joined, s =>
    let line := s.takeWhile (· ≠ '\n')
    let rest := s.dropWhile (· ≠ '\n')
    let line := if d.indented then line.dropWhile (· = '\t') else line
    if !joined && line = d.delimiter.toList then ([], rest.tail)
    else
      let (text, behind) := d.split limit (!d.literal && isJoined line) rest.tail
      (line ++ rest.take 1 ++ text, behind)

def readDocument (body : Reader Command) (d : Document) : Reader Unit := do
  let s ← get
  let (text, rest) := d.split (s.rest.length + 1) false s.rest
  let w ←
    if d.literal then pure [Part.fixed (String.ofList text)]
    else Reader.within text s.line (readParts body (text.length + 2) .document)
  modify fun t => { t with found := (d.number, w) :: t.found }
  Reader.drop (s.rest.length - rest.length)

def readDocuments (body : Reader Command) : Reader Unit := do
  let announced := (← get).announced
  modify fun s => { s with announced := [] }
  announced.forM (readDocument body)

/-- Announces a document. The result is its text, if an earlier reading has found it. -/
def announce (delimiter : Word) (indented : Bool) : Reader Word := do
  let s ← get
  let (text, literal) := delimiterText delimiter
  set { s with
    announced := s.announced ++ [Document.mk s.documents text indented literal]
    documents := s.documents + 1 }
  return (s.known.lookup s.documents).getD []

end FlashImage.Shell
