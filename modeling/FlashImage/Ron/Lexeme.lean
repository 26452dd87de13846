import FlashImage.Ron.Fault
import FlashImage.Text.Numeral

/-!
The smallest parts of a RON text: blanks and comments, names, words and strings.

A reader takes a text and gives what it has read and the rest of the text.
-/

set_option autoImplicit false
set_option relaxedAutoImplicit false

namespace FlashImage.Ron

inductive BlankPlace
  | space
  | line
  /-- A block comment inside so many others. -/
  | block (outer : Nat)

def isBlank (c : Char) : Bool := c == ' ' || c == '\t' || c == '\n' || c == '\r'

def skipFrom : BlankPlace → List Char → Except Fault (List Char)
  | .block _, [] => .error .malformed
  | _, [] => .ok []
  | .space, '/' :: '/' :: rest => skipFrom .line rest
  | .space, '/' :: '*' :: rest => skipFrom (.block 0) rest
  | .space, '/' :: _ => .error .malformed
  | .space, c :: rest => if isBlank c then skipFrom .space rest else .ok (c :: rest)
  | .line, '\n' :: rest => skipFrom .space rest
  | .line, _ :: rest => skipFrom .line rest
  | .block outer, '/' :: '*' :: rest => skipFrom (.block (outer + 1)) rest
  | .block 0, '*' :: '/' :: rest => skipFrom .space rest
  | .block (outer + 1), '*' :: '/' :: rest => skipFrom (.block outer) rest
  | .block outer, _ :: rest => skipFrom (.block outer) rest

def skipBlank (s : List Char) : Except Fault (List Char) := skipFrom .space s

def isNameStart (c : Char) : Bool := c.isAlpha || c == '_'

def isNameChar (c : Char) : Bool := isNameStart c || c.isDigit

def isRawChar (c : Char) : Bool := isNameChar c || c == '.' || c == '+' || c == '-'

def startsWith (test : Char → Bool) : List Char → Bool
  | c :: _ => test c
  | [] => false

/-- Reads a name. It must not run on with a character that only raw names have. -/
def name? : List Char → Option (String × List Char)
  | 'r' :: '"' :: _ => none
  | 'r' :: '#' :: rest =>
    if startsWith isRawChar rest then
      some (String.ofList (rest.takeWhile isRawChar), rest.dropWhile isRawChar)
    else none
  | s =>
    let rest := s.dropWhile isNameChar
    if startsWith isNameStart s && !startsWith isRawChar rest then
      some (String.ofList (s.takeWhile isNameChar), rest)
    else none

def readName (s : List Char) : Except Fault (String × List Char) :=
  match name? s with
  | some r => .ok r
  | none => .error .malformed

def behind? : (start : List Char) → List Char → Option (List Char)
  | [], s => some s
  | _ :: _, [] => none
  | c :: start, d :: rest => if c = d then behind? start rest else none

/-- The rest of a text behind a word. The word must not run on as a name. -/
def behindWord? (word : String) (s : List Char) : Option (List Char) :=
  (behind? word.toList s).filter fun rest => !startsWith isNameChar rest

def expect (c : Char) : List Char → Except Fault (List Char)
  | d :: rest => if c = d then .ok rest else .error .malformed
  | [] => .error .malformed

def readComma (s : List Char) : Except Fault (Bool × List Char) := do
  match ← skipBlank s with
  | ',' :: rest => return (true, ← skipBlank rest)
  | rest => return (false, rest)

def charOf? (n : Nat) : Option Char := if n.isValidChar then some (Char.ofNat n) else none

def escaped? : Char → Option Char
  | '\'' => some '\''
  | '"' => some '"'
  | '\\' => some '\\'
  | 'n' => some '\n'
  | 'r' => some '\r'
  | 't' => some '\t'
  | '0' => some '\x00'
  | _ => none

def charOfTwo? (a b : Char) : Option Char := do
  charOf? ((← Text.digitValue? 16 a) * 16 + (← Text.digitValue? 16 b))

def pushFront (c : Option Char) (r : Option (List Char × List Char)) :
    Option (List Char × List Char) :=
  match c, r with
  | some c, some (s, rest) => some (c :: s, rest)
  | _, _ => none

/-- The number of a character that an escape in braces has so far, and how many digits gave it. -/
structure OpenEscape where
  number : Nat
  digits : Nat

def escapedString? : Option OpenEscape → List Char → Option (List Char × List Char)
  | _, [] => none
  | some e, '\x7d' :: rest =>
    if e.digits = 0 then none else pushFront (charOf? e.number) (escapedString? none rest)
  | some e, c :: rest =>
    match Text.digitValue? 16 c with
    | some d =>
      if e.digits < 6 then escapedString? (some ⟨e.number * 16 + d, e.digits + 1⟩) rest else none
    | none => none
  | none, '"' :: rest => some ([], rest)
  | none, '\\' :: 'x' :: a :: b :: rest => pushFront (charOfTwo? a b) (escapedString? none rest)
  | none, '\\' :: 'u' :: '\x7b' :: rest => escapedString? (some ⟨0, 0⟩) rest
  | none, '\\' :: c :: rest => pushFront (escaped? c) (escapedString? none rest)
  | none, c :: rest => if c = '\\' then none else pushFront (some c) (escapedString? none rest)

/-- Reads a raw string behind its opening quote, up to a quote with some number signs behind it. -/
def rawString? (signs : List Char) : List Char → Option (List Char × List Char)
  | [] => none
  | c :: rest =>
    match c, behind? signs rest with
    | '"', some rest => some ([], rest)
    | _, _ => pushFront (some c) (rawString? signs rest)

def readString (s : List Char) : Except Fault (String × List Char) :=
  let result :=
    match s with
    | '"' :: rest => escapedString? none rest
    | 'r' :: rest =>
      let signs := rest.takeWhile (· = '#')
      match rest.dropWhile (· = '#') with
      | '"' :: rest => rawString? signs rest
      | _ => none
    | _ => none
  match result with
  | some (text, rest) => .ok (String.ofList text, rest)
  | none => .error .malformed

def readChar : List Char → Except Fault (List Char)
  | '\'' :: '\\' :: 'x' :: a :: b :: '\'' :: rest =>
    if (charOfTwo? a b).isSome then .ok rest else .error .malformed
  | '\'' :: '\\' :: 'u' :: '\x7b' :: rest =>
    let digits := rest.takeWhile fun c => (Text.digitValue? 16 c).isSome
    let number := digits.foldl (fun n c => n * 16 + (Text.digitValue? 16 c).getD 0) 0
    match rest.dropWhile fun c => (Text.digitValue? 16 c).isSome with
    | '\x7d' :: '\'' :: rest =>
      if 0 < digits.length ∧ digits.length ≤ 6 ∧ number.isValidChar then .ok rest
      else .error .malformed
    | _ => .error .malformed
  | '\'' :: '\\' :: c :: '\'' :: rest => if (escaped? c).isSome then .ok rest else .error .malformed
  | '\'' :: c :: '\'' :: rest =>
    if c = '\'' ∨ c = '\\' then .error .malformed else .ok rest
  | _ => .error .malformed

end FlashImage.Ron
