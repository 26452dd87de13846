import FlashImage.Text.Numeral

/-!
The quoted strings of TOML: basic ones with escapes, literal ones without, and both over many
lines.

A reader takes the text behind the opening quotes and gives the string and the text behind the
closing quotes. In strings over many lines every line end counts as one line feed.
-/

set_option autoImplicit false
set_option relaxedAutoImplicit false

namespace FlashImage.Toml

def charOfDigits? (digits : List Char) : Option Char := do
  let values ← digits.mapM (Text.digitValue? 16)
  let n := values.foldl (fun n d => n * 16 + d) 0
  if n.isValidChar then some (Char.ofNat n) else none

def escaped? : Char → Option Char
  | 'b' => some '\x08'
  | 't' => some '\t'
  | 'n' => some '\n'
  | 'f' => some '\x0C'
  | 'r' => some '\r'
  | '"' => some '"'
  | '\\' => some '\\'
  | _ => none

/-- The characters that stand for themselves in every string: all but the control characters, and
the tab. -/
def isPlain (c : Char) : Bool := c == '\t' || (0x20 ≤ c.toNat && c.toNat != 0x7F)

def pushFront (c : Option Char) (r : Option (List Char × List Char)) :
    Option (List Char × List Char) :=
  match c, r with
  | some c, some (s, rest) => some (c :: s, rest)
  | _, _ => none

def readBasic : List Char → Option (List Char × List Char)
  | [] => none
  | '"' :: rest => some ([], rest)
  | '\\' :: 'u' :: a :: b :: c :: d :: rest =>
    pushFront (charOfDigits? [a, b, c, d]) (readBasic rest)
  | '\\' :: 'U' :: a :: b :: c :: d :: e :: f :: g :: h :: rest =>
    pushFront (charOfDigits? [a, b, c, d, e, f, g, h]) (readBasic rest)
  | '\\' :: c :: rest => pushFront (escaped? c) (readBasic rest)
  | c :: rest => if c ≠ '\\' ∧ isPlain c then pushFront c (readBasic rest) else none

def readLiteral : List Char → Option (List Char × List Char)
  | [] => none
  | '\'' :: rest => some ([], rest)
  | c :: rest => if isPlain c then pushFront c (readLiteral rest) else none

/-- Whether nothing but blanks stands before the end of the line. -/
def lineIsBlank : List Char → Bool
  | '\n' :: _ => true
  | '\r' :: '\n' :: _ => true
  | ' ' :: rest => lineIsBlank rest
  | '\t' :: rest => lineIsBlank rest
  | _ => false

def readManyBasic : (dropping : Bool) → List Char → Option (List Char × List Char)
  | _, [] => none
  | true, ' ' :: rest => readManyBasic true rest
  | true, '\t' :: rest => readManyBasic true rest
  | true, '\n' :: rest => readManyBasic true rest
  | true, '\r' :: '\n' :: rest => readManyBasic true rest
  | _, '\n' :: rest => pushFront '\n' (readManyBasic false rest)
  | _, '\r' :: '\n' :: rest => pushFront '\n' (readManyBasic false rest)
  | _, '"' :: '"' :: '"' :: '"' :: '"' :: rest => some (['"', '"'], rest)
  | _, '"' :: '"' :: '"' :: '"' :: rest => some (['"'], rest)
  | _, '"' :: '"' :: '"' :: rest => some ([], rest)
  | _, '\\' :: 'u' :: a :: b :: c :: d :: rest =>
    pushFront (charOfDigits? [a, b, c, d]) (readManyBasic false rest)
  | _, '\\' :: 'U' :: a :: b :: c :: d :: e :: f :: g :: h :: rest =>
    pushFront (charOfDigits? [a, b, c, d, e, f, g, h]) (readManyBasic false rest)
  | _, '\\' :: c :: rest =>
    if lineIsBlank (c :: rest) then readManyBasic true (c :: rest)
    else pushFront (escaped? c) (readManyBasic false rest)
  | _, c :: rest => if c ≠ '\\' ∧ isPlain c then pushFront c (readManyBasic false rest) else none

def readManyLiteral : List Char → Option (List Char × List Char)
  | [] => none
  | '\n' :: rest => pushFront '\n' (readManyLiteral rest)
  | '\r' :: '\n' :: rest => pushFront '\n' (readManyLiteral rest)
  | '\'' :: '\'' :: '\'' :: '\'' :: '\'' :: rest => some (['\'', '\''], rest)
  | '\'' :: '\'' :: '\'' :: '\'' :: rest => some (['\''], rest)
  | '\'' :: '\'' :: '\'' :: rest => some ([], rest)
  | c :: rest => if isPlain c then pushFront c (readManyLiteral rest) else none

/-- A string over many lines may start in the line after its quotes. -/
def dropNewline : List Char → List Char
  | '\n' :: rest => rest
  | '\r' :: '\n' :: rest => rest
  | s => s

def readString : List Char → Option (String × List Char)
  | '"' :: '"' :: '"' :: rest => asString (readManyBasic false (dropNewline rest))
  | '"' :: rest => asString (readBasic rest)
  | '\'' :: '\'' :: '\'' :: rest => asString (readManyLiteral (dropNewline rest))
  | '\'' :: rest => asString (readLiteral rest)
  | _ => none
where
  asString (r : Option (List Char × List Char)) : Option (String × List Char) :=
    r.map fun (s, rest) => (String.ofList s, rest)

end FlashImage.Toml
