/-!
Binary numbers with 53 significant bits, and their shortest decimal text.

A decimal is rounded to the nearest binary number, a tie going to the even significand. The text of
a binary number has the fewest digits that round back to it and, of those, the ones nearest to it,
a tie going up; it is always written out in full, without an exponent.
-/

set_option autoImplicit false
set_option relaxedAutoImplicit false

namespace FlashImage.Text

/-- The number `significand * 2 ^ exponent`, which is at least zero. -/
structure Binary64 where
  significand : Nat
  exponent : Int
  deriving DecidableEq, Repr

namespace Binary64

def roundedQuotient (num den : Nat) : Nat :=
  let q := num / den
  let twice := 2 * (num % den)
  if twice < den then q
  else if den < twice then q + 1
  else if q % 2 = 0 then q else q + 1

/-- The least exponent that a number of this precision has. -/
def minExponent : Int := -1074

def scaled (num den : Nat) (exponent : Int) : Nat × Nat :=
  if 0 ≤ exponent then (num, den * Nat.pow 2 exponent.toNat)
  else (num * Nat.pow 2 (-exponent).toNat, den)

def ofFraction (num den : Nat) : Binary64 :=
  let guess : Int := (Nat.log2 num : Int) - (Nat.log2 den : Int) - 52
  let exponents := [max minExponent (guess - 1), max minExponent guess, max minExponent (guess + 1)]
  let candidates := exponents.map fun e =>
    let (n, d) := scaled num den e
    (⟨roundedQuotient n d, e⟩ : Binary64)
  match candidates.find? (·.significand < Nat.pow 2 53) with
  | some b => b
  | none => ⟨Nat.pow 2 52, max minExponent (guess + 2)⟩

/-- The largest decimal exponent, counted from the first digit, that is not out of range at once. -/
def decimalLimit : Int := 400

/-- The binary number nearest to `mantissa * 10 ^ exponent`, or nothing if it is out of range. -/
def ofDecimal? (mantissa : Nat) (exponent : Int) : Option Binary64 :=
  let top := (Nat.toDigits 10 mantissa).length + exponent
  if mantissa = 0 ∨ top < -decimalLimit then some ⟨0, minExponent⟩
  else if decimalLimit < top then none
  else
    let b :=
      if 0 ≤ exponent then ofFraction (mantissa * Nat.pow 10 exponent.toNat) 1
      else ofFraction mantissa (Nat.pow 10 (-exponent).toNat)
    if b.significand * Nat.pow 2 b.exponent.toNat < Nat.pow 2 1024 then some b else none

/-- The decimals with a given step that lie next to a binary number, the nearer first, and the upper
one if both are equally near. -/
def neighbours (b : Binary64) (step : Int) : List (Nat × Int) :=
  let (num, den) := scaled b.significand 1 (-b.exponent)
  let (num, den) :=
    if 0 ≤ step then (num, den * Nat.pow 10 step.toNat) else (num * Nat.pow 10 (-step).toNat, den)
  let low := num / den
  if 2 * (num % den) < den then [(low, step), (low + 1, step)] else [(low + 1, step), (low, step)]

/-- The fewest digits that round back to a binary number, as a whole number and a power of ten. -/
def shortest (b : Binary64) : Nat × Int :=
  let (num, den) := scaled b.significand 1 (-b.exponent)
  let places : Int := (Nat.toDigits 10 (num / den)).length
  let first : Int := if num / den = 0 then
      -((Nat.toDigits 10 (den / num)).length : Int) + 1
    else places
  let steps := (List.range 20).map fun (digits : Nat) => first - (digits : Int)
  let hit := steps.findSome? fun step =>
    (b.neighbours step).find? fun (m, e) => m ≠ 0 ∧ ofDecimal? m e = some b
  hit.getD (0, 0)

def decimalText (mantissa : Nat) (exponent : Int) : String :=
  let digits := Nat.toDigits 10 mantissa
  if 0 ≤ exponent then
    String.ofList (digits ++ List.replicate exponent.toNat '0') ++ ".0"
  else
    let places := (-exponent).toNat
    let filled := List.replicate (places + 1 - digits.length) '0' ++ digits
    let whole := filled.take (filled.length - places)
    let fraction := filled.drop (filled.length - places)
    String.ofList whole ++ "." ++ String.ofList fraction

def text (b : Binary64) : String :=
  if b.significand = 0 then "0.0"
  else
    let (mantissa, exponent) := b.shortest
    decimalText mantissa exponent

end Binary64
end FlashImage.Text
