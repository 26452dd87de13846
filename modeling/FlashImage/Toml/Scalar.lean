import FlashImage.Toml.Quoted
import FlashImage.Toml.Value

/-!
The values of TOML that are single words: numbers, truth values, dates and times.

A word is a longest run of the characters that such values have. Nothing that may follow a value
is one of these characters, so a word is a value as a whole or not at all.
-/

set_option autoImplicit false
set_option relaxedAutoImplicit false

namespace FlashImage.Toml

def isWordChar (c : Char) : Bool :=
  c.isAlphanum || c == '+' || c == '-' || c == '_' || c == '.' || c == ':'

/-- Digits in base `base`, with single underscores allowed between them, as their values. -/
def groupedDigits? (base : Nat) : List Char → Option (List Nat)
  | [] => none
  | c :: '_' :: rest => do
    let d ← Text.digitValue? base c
    let ds ← groupedDigits? base rest
    some (d :: ds)
  | [c] => do
    let d ← Text.digitValue? base c
    some [d]
  | c :: rest => do
    let d ← Text.digitValue? base c
    let ds ← groupedDigits? base rest
    some (d :: ds)
def ofDigits (base : Nat) (digits : List Nat) : Nat := digits.foldl (fun n d => n * base + d) 0

def splitSign : List Char → Bool × List Char
  | '-' :: rest => (true, rest)
  | '+' :: rest => (false, rest)
  | s => (false, s)

def wholeDigits? (s : List Char) : Option (List Nat) :=
  match groupedDigits? 10 s with
  | some (0 :: _ :: _) => none
  | digits => digits

/-- Integers reach from the negative of this number up to it, and do not reach it. -/
def integerLimit : Int := 0x8000000000000000

def integer? : List Char → Option Int
  | '0' :: 'x' :: rest => based? 16 rest
  | '0' :: 'o' :: rest => based? 8 rest
  | '0' :: 'b' :: rest => based? 2 rest
  | s => do
    let (negative, rest) := splitSign s
    let digits ← wholeDigits? rest
    let n := ofDigits 10 digits
    let value : Int := if negative then -(n : Int) else n
    if -integerLimit ≤ value ∧ value < integerLimit then some value else none
where
  based? (base : Nat) (s : List Char) : Option Int := do
    let digits ← groupedDigits? base s
    let n := ofDigits base digits
    if (n : Int) < integerLimit then some (n : Int) else none

def exponent? : List Char → Option Int
  | [] => some 0
  | c :: rest =>
    if c = 'e' ∨ c = 'E' then do
      let (negative, rest) := splitSign rest
      let digits ← groupedDigits? 10 rest
      let n := ofDigits 10 digits
      some (if negative then -(n : Int) else n)
    else none

/-- The number `digits * 10 ^ exponent`. A number below the least one there is counts as infinite,
and one above the greatest is refused. -/
def realOf? (negative : Bool) (digits : List Nat) (exponent : Int) : Option Real :=
  match Text.Binary64.ofDecimal? (ofDigits 10 digits) exponent with
  | some magnitude => some (.finite negative magnitude)
  | none => if negative then some (.infinite true) else none

def real? (s : List Char) : Option Real :=
  let (negative, rest) := splitSign s
  if rest = ['i', 'n', 'f'] then some (.infinite negative)
  else if rest = ['n', 'a', 'n'] then some .nan
  else do
    let numeral := fun (c : Char) => c.isDigit || c == '_'
    let whole ← wholeDigits? (rest.takeWhile numeral)
    match rest.dropWhile numeral with
    | [] => none
    | '.' :: rest =>
      let fraction ← groupedDigits? 10 (rest.takeWhile numeral)
      let exponent ← exponent? (rest.dropWhile numeral)
      realOf? negative (whole ++ fraction) (exponent - fraction.length)
    | rest => do
      let exponent ← exponent? rest
      realOf? negative whole exponent

def twoDigits? (a b : Char) : Option Nat := (groupedDigits? 10 [a, b]).map (ofDigits 10)

def daysOf (year month : Nat) : Nat :=
  if month = 2 then
    if year % 4 = 0 ∧ (year % 100 ≠ 0 ∨ year % 400 = 0) then 29 else 28
  else if month = 4 ∨ month = 6 ∨ month = 9 ∨ month = 11 then 30
  else 31

/-- What follows a date at the start of a word. -/
def afterDate? : List Char → Option (List Char)
  | y₃ :: y₂ :: y₁ :: y₀ :: '-' :: m₁ :: m₀ :: '-' :: d₁ :: d₀ :: rest => do
    let century ← twoDigits? y₃ y₂
    let year ← twoDigits? y₁ y₀
    let month ← twoDigits? m₁ m₀
    let day ← twoDigits? d₁ d₀
    if 1 ≤ month ∧ month ≤ 12 ∧ 1 ≤ day ∧ day ≤ daysOf (century * 100 + year) month then some rest
    else none
  | _ => none

def afterTime? : List Char → Option (List Char)
  | h₁ :: h₀ :: ':' :: m₁ :: m₀ :: ':' :: s₁ :: s₀ :: rest => do
    let hour ← twoDigits? h₁ h₀
    let minute ← twoDigits? m₁ m₀
    let second ← twoDigits? s₁ s₀
    if hour ≤ 23 ∧ minute ≤ 59 ∧ second ≤ 60 then
      match rest with
      | '.' :: digits =>
        if (digits.takeWhile Char.isDigit).isEmpty then none
        else some (digits.dropWhile Char.isDigit)
      | rest => some rest
    else none
  | _ => none

def isOffset : List Char → Bool
  | [] => true
  | [c] => c == 'Z' || c == 'z'
  | [sign, h₁, h₀, ':', m₁, m₀] =>
    (sign == '+' || sign == '-') &&
      match twoDigits? h₁ h₀, twoDigits? m₁ m₀ with
      | some hour, some minute => hour ≤ 23 && minute ≤ 59
      | _, _ => false
  | _ => false

def isTimeOfDay (word : List Char) : Bool :=
  match afterTime? word with
  | some rest => isOffset rest
  | none => false

/-- Whether a word is a date, a time, or both. -/
def isMoment (word : List Char) : Bool :=
  afterTime? word == some [] ||
    match afterDate? word with
    | some [] => true
    | some (c :: rest) => (c == 'T' || c == 't') && isTimeOfDay rest
    | none => false

def word? (word : List Char) : Option Value :=
  if word = ['t', 'r', 'u', 'e'] then some (.boolean true)
  else if word = ['f', 'a', 'l', 's', 'e'] then some (.boolean false)
  else if isMoment word then some .moment
  else
    match integer? word with
    | some n => some (.integer n)
    | none => (real? word).map .real

/-- Reads a single word, or a date and a time that are parted by a blank. -/
def readWord (s : List Char) : Option (Value × List Char) :=
  let word := s.takeWhile isWordChar
  let rest := s.dropWhile isWordChar
  match afterDate? word, rest with
  | some [], ' ' :: behind =>
    let time := behind.takeWhile isWordChar
    if time.isEmpty then some (.moment, rest)
    else if isTimeOfDay time then some (.moment, behind.dropWhile isWordChar)
    else none
  | _, _ => (word? word).map (·, rest)

end FlashImage.Toml
