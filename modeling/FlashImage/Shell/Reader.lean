import FlashImage.Ron.Lexeme
import FlashImage.Shell.Command

/-!
The state of reading a script: the text that is left, the line, and what has been announced on the
line.

A here-document is announced by a redirection, and its text starts on the line behind. So a script
that has such documents is read more than once: `known` has the texts that an earlier reading has
found.
-/

set_option autoImplicit false
set_option relaxedAutoImplicit false

namespace FlashImage.Shell

/-- Why a script cannot be read, and on which line that shows. -/
structure SyntaxFault where
  line : Nat
  wording : String
  deriving DecidableEq, Repr

/-- A part of a script that stands for itself. -/
inductive Token
  | word (w : Word)
  | keyword (name : String)
  | redirect (descriptor : Option Nat) (sign : String)
  | operator (sign : String)
  | newline
  | ending

def Token.shown : Token → String
  | .word _ => "word"
  | .keyword name => "\"" ++ name ++ "\""
  | .redirect _ _ => "redirection"
  | .operator sign => "\"" ++ sign ++ "\""
  | .newline => "newline"
  | .ending => "end of file"

def Token.is : Token → String → Bool
  | .keyword name, s => name == s
  | .operator sign, s => sign == s
  | _, _ => false

/-- A here-document that has been announced. -/
structure Document where
  number : Nat
  delimiter : String
  /-- Whether tabs at the start of its lines are left out. -/
  indented : Bool
  /-- Whether its text stands for itself. -/
  literal : Bool

/-- What reading a script depends on. -/
structure ReaderState where
  rest : List Char
  line : Nat
  /-- A token that has been read too early. -/
  ahead : Option Token
  /-- The documents whose texts are still to come. -/
  announced : List Document
  /-- The number of documents so far. -/
  documents : Nat
  /-- The texts that have been found, by the numbers of their documents. -/
  found : List (Nat × Word)
  /-- The texts that an earlier reading has found. -/
  known : List (Nat × Word)

abbrev Reader (α : Type) := StateT ReaderState (Except SyntaxFault) α

namespace Reader

def fail {α : Type} (wording : String) : Reader α := do
  throw ⟨(← get).line, wording⟩

def iterate {α σ : Type} (step : σ → Reader (σ ⊕ α)) : (limit : Nat) → σ → Reader α
  | 0, _ => fail "end of file unexpected"
  | limit + 1, s => do
    match ← step s with
    | .inl s => iterate step limit s
    | .inr a => return a

def limit : Reader Nat := do return (← get).rest.length + 2

def drop (n : Nat) : Reader Unit := modify fun s =>
  { s with rest := s.rest.drop n, line := s.line + (s.rest.take n).count '\n' }

/-- The text without the line breaks behind backslashes at its start, and how many of these there
are. -/
def skipJoins : List Char → Nat × List Char
  | '\\' :: '\n' :: rest =>
    let (n, rest) := skipJoins rest
    (n + 1, rest)
  | rest => (0, rest)

/-- The next character. A line break behind a backslash joins two lines. -/
def peek : Reader (Option Char) := do
  let (n, rest) := skipJoins (← get).rest
  modify fun s => { s with rest := rest, line := s.line + n }
  return rest.head?

def accept (c : Char) : Reader Bool := do
  if (← peek) = some c then
    drop 1
    return true
  else return false

def takeWhile (meets : Char → Bool) : Reader (List Char) := do
  let step (taken : List Char) : Reader (List Char ⊕ List Char) := do
    match ← peek with
    | some c =>
      if meets c then
        drop 1
        return .inl (c :: taken)
      else return .inr taken.reverse
    | none => return .inr taken.reverse
  iterate step (← limit) []

def keep (t : Token) : Reader Unit := modify fun s => { s with ahead := some t }

def kept? : Reader (Option Token) := do
  let s ← get
  set { s with ahead := none }
  return s.ahead

def unexpected {α : Type} (t : Token) (expected : Option String) : Reader α :=
  match expected with
  | none => fail (t.shown ++ " unexpected")
  | some s => fail (t.shown ++ " unexpected (expecting \"" ++ s ++ "\")")

def within {α : Type} (text : List Char) (line : Nat) (step : Reader α) : Reader α := do
  let outer ← get
  set { outer with rest := text, line := line, ahead := none, announced := [] }
  let a ← step
  modify fun inner =>
    { inner with
      rest := outer.rest, line := outer.line, ahead := outer.ahead, announced := outer.announced }
  return a

end Reader

def isName (s : String) : Bool :=
  match s.toList with
  | c :: rest => Ron.isNameStart c && rest.all Ron.isNameChar
  | [] => false

/-- Whether a character is the name of a parameter that the shell sets itself. -/
def isSpecialParameter (c : Char) : Bool := c.isDigit || "#?$!-*@".toList.contains c

end FlashImage.Shell
