import FlashImage.Text.Binary64
import FlashImage.Text.Numeral

/-!
Real numbers in decimal notation: how they are read, and how they are printed with a given number of
digits.

A number is held as a fraction of whole numbers, so that rounding is exact.
-/

set_option autoImplicit false
set_option relaxedAutoImplicit false

namespace FlashImage.Shell

/-- A real number: its sign and the fraction of two whole numbers. -/
structure Real where
  negative : Bool
  numerator : Nat
  denominator : Nat
  deriving DecidableEq, Repr

namespace Real

def ofBinary (b : Text.Binary64) : Real :=
  ⟨false, b.significand * Nat.pow 2 b.exponent.toNat, Nat.pow 2 (-b.exponent).toNat⟩

def readDigits (s : List Char) : Option ((Nat × Int) × List Char) :=
  let whole := s.takeWhile Char.isDigit
  let rest := s.drop whole.length
  let (places, rest) :=
    match rest with
    | '.' :: behind =>
      let places := behind.takeWhile Char.isDigit
      (places, behind.drop places.length)
    | rest => ([], rest)
  let digits := whole ++ places
  if digits.isEmpty then none
  else
    let (exponent, rest) := readExponent rest
    some ((valueOf digits, exponent - (places.length : Int)), rest)
where
  valueOf (digits : List Char) : Nat :=
    digits.foldl (fun n d => n * 10 + (d.toNat - '0'.toNat)) 0
  readExponent (s : List Char) : Int × List Char :=
    match s with
    | e :: rest =>
      if e = 'e' ∨ e = 'E' then
        let (negative, behind) :=
          match rest with
          | '-' :: behind => (true, behind)
          | '+' :: behind => (false, behind)
          | behind => (false, behind)
        let digits := behind.takeWhile Char.isDigit
        if digits.isEmpty then (0, s)
        else
          let n : Int := min (valueOf digits) 5000
          (if negative then -n else n, behind.drop digits.length)
      else (0, s)
    | [] => (0, s)

/-- The binary number that is nearest to a decimal one. One that is out of range counts as zero. -/
def nearest (digits : Nat) (exponent : Int) : Real :=
  match Text.Binary64.ofDecimal? digits exponent with
  | some b => ofBinary b
  | none => ⟨false, 0, 1⟩

def read (s : List Char) : Option (Real × List Char) :=
  let (negative, digits) :=
    match s with
    | '-' :: digits => (true, digits)
    | '+' :: digits => (false, digits)
    | digits => (false, digits)
  (readDigits digits).map fun ((n, e), rest) => ({ nearest n e with negative := negative }, rest)

/-- A number with so many digits behind the point, without its sign. -/
def fixedText (x : Real) (places : Nat) (point : Bool) : String :=
  let n := Text.Binary64.roundedQuotient (x.numerator * Nat.pow 10 places) x.denominator
  let digits := Text.zeroFilled (places + 1) (toString n)
  let whole := digits.length - places
  let text := digits.toList
  String.ofList (text.take whole) ++ (if places ≠ 0 ∨ point then "." else "") ++
    String.ofList (text.drop whole)

/-- The greatest power of ten, from 308 down, that is at most a number that is not zero. -/
def magnitude (x : Real) : Int :=
  let fits (e : Int) : Bool :=
    x.denominator * Nat.pow 10 e.toNat ≤ x.numerator * Nat.pow 10 (-e).toNat
  let exponents := (List.range 640).map fun (i : Nat) => (308 : Int) - (i : Int)
  (exponents.find? fits).getD 0

/-- The digits of a number that is rounded to so many, and its power of ten. -/
def scientific (x : Real) (places : Nat) : Nat × Int :=
  if x.numerator = 0 then (0, 0)
  else
    let e := x.magnitude
    let shift : Int := (places : Int) - e
    let n := Text.Binary64.roundedQuotient (x.numerator * Nat.pow 10 shift.toNat)
      (x.denominator * Nat.pow 10 (-shift).toNat)
    if n = Nat.pow 10 (places + 1) then (Nat.pow 10 places, e + 1) else (n, e)

/-- A number with one digit before the point and a power of ten, without its sign. -/
def scientificText (x : Real) (places : Nat) (point : Bool) : String :=
  let (n, e) := x.scientific places
  let digits := (Text.zeroFilled (places + 1) (toString n)).toList
  let sign := if e < 0 then "-" else "+"
  String.ofList (digits.take 1) ++ (if places ≠ 0 ∨ point then "." else "") ++
    String.ofList (digits.drop 1) ++ "e" ++ sign ++ Text.zeroFilled 2 (toString e.natAbs)

def withoutZeros (s : String) : String :=
  let (head, tail) := (s.toList.takeWhile (· ≠ 'e'), s.toList.dropWhile (· ≠ 'e'))
  if !head.contains '.' then s
  else
    let kept := (head.reverse.dropWhile (· = '0')).reverse
    let kept := if kept.getLast? = some '.' then kept.dropLast else kept
    String.ofList (kept ++ tail)

/-- A number with so many digits in the shorter of the two notations, without its sign. -/
def shorterText (x : Real) (digits : Nat) (full : Bool) : String :=
  let digits := max 1 digits
  let (_, e) := x.scientific (digits - 1)
  let text :=
    if e < -4 ∨ (digits : Int) ≤ e then x.scientificText (digits - 1) full
    else x.fixedText ((digits : Int) - 1 - e).toNat full
  if full then text else withoutZeros text

end Real
end FlashImage.Shell
