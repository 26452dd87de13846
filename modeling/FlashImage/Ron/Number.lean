import FlashImage.Ron.Lexeme

/-!
The numbers of RON.

A whole number is read digit by digit, so of an overflow and a wrong digit the one that comes first
is reported.
-/

set_option autoImplicit false
set_option relaxedAutoImplicit false

namespace FlashImage.Ron

def splitBase : List Char → Nat × List Char
  | '0' :: 'x' :: rest => (16, rest)
  | '0' :: 'b' :: rest => (2, rest)
  | '0' :: 'o' :: rest => (8, rest)
  | s => (10, s)

def isDigitChar (c : Char) : Bool := c == '_' || (Text.digitValue? 16 c).isSome

/-- The number with some digits behind those read so far, which stays below a limit. -/
def accumulate (base limit : Nat) : Nat → List Char → Except Fault Nat
  | n, [] => .ok n
  | n, c :: rest =>
    if c = '_' then accumulate base limit n rest
    else if limit ≤ n * base then .error .integerRange
    else
      match Text.digitValue? 16 c with
      | none => .error .malformed
      | some d =>
        if base ≤ d then .error .malformed
        else if limit ≤ n * base + d then .error .integerRange
        else accumulate base limit (n * base + d) rest

def readWhole (limit : Nat) (s : List Char) : Except Fault (Nat × List Char) :=
  let (base, rest) := splitBase s
  let digits := rest.takeWhile isDigitChar
  match digits with
  | [] => .error .malformed
  | '_' :: _ => .error .malformed
  | digits =>
    match accumulate base limit 0 digits with
    | .ok n => .ok (n, rest.dropWhile isDigitChar)
    | .error fault => .error fault

def isRealChar (c : Char) : Bool :=
  c.isDigit || c == 'e' || c == 'E' || c == '.' || c == '+' || c == '-' || c == '_'

def dropSign : List Char → List Char
  | '+' :: rest => rest
  | '-' :: rest => rest
  | s => s

def isExponent : List Char → Bool
  | [] => true
  | c :: rest =>
    let digits := dropSign rest
    (c == 'e' || c == 'E') && !digits.isEmpty && digits.all Char.isDigit

def isReal (s : List Char) : Bool :=
  let unsigned := dropSign s
  let whole := unsigned.takeWhile Char.isDigit
  match unsigned.dropWhile Char.isDigit with
  | '.' :: rest =>
    (!whole.isEmpty || startsWith Char.isDigit rest) && isExponent (rest.dropWhile Char.isDigit)
  | rest => !whole.isEmpty && isExponent rest

/-- The words for numbers that are not finite, with the sign that they may have. -/
def specialNumbers : List String := ["inf", "+inf", "-inf", "NaN", "+NaN", "-NaN"]

def skipReal (s : List Char) : Except Fault (List Char) :=
  match specialNumbers.findSome? (behindWord? · s) with
  | some rest => .ok rest
  | none =>
    let numeral := s.takeWhile isRealChar
    if isReal numeral then .ok (s.dropWhile isRealChar) else .error .malformed

/-- Skips any number. What is no whole number of 64 bits has to be one of the other kind. -/
def skipNumber (s : List Char) : Except Fault (List Char) :=
  let unsigned := dropSign s
  let realLength := (unsigned.takeWhile isRealChar).length
  let wholeLength := (unsigned.takeWhile isDigitChar).length
  if wholeLength < realLength then skipReal s
  else
    let limit :=
      match s with
      | '-' :: _ => Nat.pow 2 63 + 1
      | '+' :: _ => Nat.pow 2 63
      | _ => Nat.pow 2 64
    match readWhole limit unsigned with
    | .ok (_, rest) => .ok rest
    | .error _ => skipReal s

end FlashImage.Ron
