import FlashImage.Shell.Print

/-!
The values of scripts for records: numbers, texts, and texts from outside that may be numbers.

A text from outside is compared as a number if it reads as one to its end. A number is written
without a point if it is whole, and else by a format.
-/

set_option autoImplicit false
set_option relaxedAutoImplicit false

namespace FlashImage.Shell.Records

/-- A value. -/
inductive Value
  | number (x : Float)
  | text (s : String)
  /-- A text that has been read, and that may stand for a number. -/
  | outside (s : String)
  /-- What nothing has been assigned to. -/
  | unset

def isBlank (c : Char) : Bool := c = ' ' || ('\t' ≤ c && c ≤ '\x0d')

def scaledNumber (digits : Nat) (exponent : Int) : Float :=
  Float.ofScientific digits (exponent < 0) exponent.natAbs

def infinity : Float := 1.0 / 0.0

def readMagnitude? (s : List Char) : Option (Float × List Char) :=
  let startsWith (name : String) : Bool :=
    (s.take name.length).map Char.toLower == name.toList
  match s with
  | '0' :: x :: rest =>
    let digits := rest.takeWhile fun c => (Text.digitValue? 16 c).isSome
    if (x = 'x' ∨ x = 'X') ∧ !digits.isEmpty then
      some ((valueOf 16 digits).toFloat, rest.drop digits.length)
    else decimal s
  | s =>
    if startsWith "infinity" then some (infinity, s.drop 8)
    else if startsWith "inf" then some (infinity, s.drop 3)
    else if startsWith "nan" then some (0.0 / 0.0, s.drop 3)
    else decimal s
where
  decimal (s : List Char) : Option (Float × List Char) :=
    (Real.readDigits s).map fun ((n, e), rest) => (scaledNumber n e, rest)

def readNumber? (s : List Char) : Option (Float × List Char) :=
  match s.dropWhile isBlank with
  | '-' :: rest => (readMagnitude? rest).map fun (x, rest) => (-x, rest)
  | '+' :: rest => readMagnitude? rest
  | rest => readMagnitude? rest

def leadingNumber (s : String) : Float := ((readNumber? s.toList).map (·.1)).getD 0

def wholeNumber? (s : String) : Option Float :=
  match readNumber? s.toList with
  | some (x, rest) => if rest.all isBlank then some x else none
  | none => none

def Value.toNumber : Value → Float
  | .number x => x
  | .text s => leadingNumber s
  | .outside s => leadingNumber s
  | .unset => 0

/-- The number that a value is compared as, if it is compared as one. -/
def Value.number? : Value → Option Float
  | .number x => some x
  | .text _ => none
  | .outside s => wholeNumber? s
  | .unset => some 0

def fractionOf (x : Float) : Real :=
  let bits := x.toBits.toNat
  let exponent := bits / Nat.pow 2 52 % 2048
  let significand := bits % Nat.pow 2 52
  let b : Text.Binary64 :=
    if exponent = 0 then ⟨significand, -1074⟩
    else ⟨significand + Nat.pow 2 52, (exponent : Int) - 1075⟩
  { Real.ofBinary b with negative := bits / Nat.pow 2 63 = 1 }

/-- The whole number that is nearest to a number on the side of zero, between the bounds of words.
-/
def wholeOf (x : Float) : Int :=
  if x < 0 then -(min (-x).toUInt64.toNat 9223372036854775808 : Nat) else x.toUInt64.toNat

def wholeText? (x : Float) : Option String :=
  let n := wholeOf x
  let back := if n < 0 then -(n.natAbs.toFloat) else n.natAbs.toFloat
  if back == x then some (toString n) else none

def specialName? (x : Float) : Option (Bool × String) :=
  if x.isNaN then some (true, "nan")
  else if x.isInf then some (x < 0, "inf")
  else none

def setReal (c : Column) (kind : Char) (x : Float) : String :=
  let upper := kind.isUpper
  let shown (s : String) : String := if upper then s.toUpper else s
  match specialName? x with
  | some (negative, name) => c.fill (shown (c.sign negative ++ name))
  | none =>
    let r := fractionOf x
    let places := c.precision.getD 6
    let full := c.flags.contains '#'
    let text :=
      if kind.toLower = 'f' then r.fixedText places full
      else if kind.toLower = 'e' then r.scientificText places full
      else r.shorterText places full
    c.digits (c.sign r.negative) (shown text) true

def setWhole (c : Column) (kind : Char) (n : Int) : String :=
  let word : Nat := if n < 0 then (18446744073709551616 + n).toNat else n.toNat
  let lead (s : String) : String := if c.flags.contains '#' && word ≠ 0 then s else ""
  if kind = 'o' then c.number (lead "0") (String.ofList (Nat.toDigits 8 word))
  else if kind = 'x' then c.number (lead "0x") (Text.lowerHex word)
  else if kind = 'X' then c.number (lead "0X") (Text.upperHex word)
  else if kind = 'u' then c.number "" (toString word)
  else c.number (c.sign (decide (n < 0))) (toString n.natAbs)

/-- A size of a column: digits, or an asterisk, which stands for an argument. -/
def takeSize (s : List Char) (arguments : List Value) : Option Int × List Char × List Value :=
  match s with
  | '*' :: rest => (some (wholeOf ((arguments.headD .unset).toNumber)), rest, arguments.tail)
  | s =>
    let digits := s.takeWhile Char.isDigit
    (if digits.isEmpty then none else some (valueOf 10 digits : Nat), s.drop digits.length,
      arguments)

def takeColumn (s : List Char) (arguments : List Value) : Column × List Char × List Value :=
  let flags := s.takeWhile fun c => "#-+ 0".toList.contains c
  let (width?, rest, arguments) := takeSize (s.drop flags.length) arguments
  let width := width?.getD 0
  let flags := if width < 0 then '-' :: flags else flags
  match rest with
  | '.' :: rest =>
    let (precision?, rest, arguments) := takeSize rest arguments
    let precision := precision?.getD 0
    (⟨flags, width.natAbs, if precision < 0 then none else some precision.toNat⟩, rest, arguments)
  | rest => (⟨flags, width.natAbs, none⟩, rest, arguments)

/-- Writes arguments by a format. There has to be an argument for each directive. The result has
what can be written, and whether that is all. -/
def formatted (plain : Value → String) : (limit : Nat) → List Char → List Value →
    (done : List Char) → String × Bool
  | 0, _, _, done => (String.ofList done.reverse, true)
  | _ + 1, [], _, done => (String.ofList done.reverse, true)
  | limit + 1, '%' :: '%' :: rest, arguments, done =>
    formatted plain limit rest arguments ('%' :: done)
  | limit + 1, '%' :: rest, arguments, done =>
    let (c, rest, arguments) := takeColumn rest arguments
    match rest.dropWhile fun c => c = 'l' || c = 'h', arguments with
    | kind :: rest, v :: arguments =>
      let text? : Option String :=
        if "diouxX".toList.contains kind then some (setWhole c kind (wholeOf v.toNumber))
        else if "feEgGF".toList.contains kind then some (setReal c kind v.toNumber)
        else if kind = 's' then some (c.text (plain v))
        else if kind = 'c' then
          some (c.fill (match v with
            | .number x => (byteChar (wholeOf x).toNat).toString
            | v => ((plain v).toList.headD '\x00').toString))
        else none
      match text? with
      | some text => formatted plain limit rest arguments (text.toList.reverse ++ done)
      | none => (String.ofList done.reverse, false)
    | _, _ => (String.ofList done.reverse, false)
  | limit + 1, c :: rest, arguments, done => formatted plain limit rest arguments (c :: done)

/-- The text of a number by a format for those that are not whole. -/
def numberText (format : String) (x : Float) : String :=
  match wholeText? x with
  | some s => s
  | none => (formatted (fun _ => "") (format.length + 1) format.toList [.number x] []).1

def Value.toText (format : String) : Value → String
  | .number x => numberText format x
  | .text s => s
  | .outside s => s
  | .unset => ""

def Value.holds : Value → Bool
  | .number x => x != 0
  | .text s => s ≠ ""
  | .outside s =>
    match wholeNumber? s with
    | some x => x != 0
    | none => s ≠ ""
  | .unset => false

def Value.ofBool (b : Bool) : Value := .number (if b then 1 else 0)

/-- Compares values: as numbers if both are compared as numbers, and else as texts. -/
def Value.compare (format : String) (v w : Value) (numbers : Float → Float → Bool)
    (texts : String → String → Bool) : Bool :=
  match v.number?, w.number? with
  | some x, some y => numbers x y
  | _, _ => texts (v.toText format) (w.toText format)

end FlashImage.Shell.Records
