/-!
Numerals: how numbers are printed, and how 32-bit numbers are read from text.

A numeral is read from left to right, so of an overflow and a wrong digit the one that comes first
is reported.
-/

set_option autoImplicit false
set_option relaxedAutoImplicit false

namespace FlashImage.Text

def lowerHex (n : Nat) : String := String.ofList (Nat.toDigits 16 n)

def upperHex (n : Nat) : String := String.ofList ((Nat.toDigits 16 n).map Char.toUpper)

def zeroFilled (width : Nat) (s : String) : String :=
  String.ofList (List.replicate (width - s.length) '0') ++ s

def prefixedHex (n : Nat) : String := "0x" ++ lowerHex n

inductive NumeralFault
  | empty
  | badDigit
  | tooLarge
  deriving DecidableEq, Repr

def NumeralFault.message : NumeralFault → String
  | .empty => "cannot parse integer from empty string"
  | .badDigit => "invalid digit found in string"
  | .tooLarge => "number too large to fit in target type"

def digitValue? (base : Nat) (c : Char) : Option Nat :=
  let value :=
    if '0' ≤ c ∧ c ≤ '9' then some (c.toNat - '0'.toNat)
    else if 'a' ≤ c ∧ c ≤ 'f' then some (c.toNat - 'a'.toNat + 10)
    else if 'A' ≤ c ∧ c ≤ 'F' then some (c.toNat - 'A'.toNat + 10)
    else none
  value.filter (· < base)

def readDigits (base : Nat) : Nat → List Char → Except NumeralFault Nat
  | n, [] => .ok n
  | n, c :: rest =>
    match digitValue? base c with
    | none => .error .badDigit
    | some d =>
      if n * base + d < UInt32.size then readDigits base (n * base + d) rest else .error .tooLarge

def readNumeral (base : Nat) : List Char → Except NumeralFault UInt32
  | [] => .error .empty
  | ['+'] => .error .badDigit
  | '+' :: rest => (readDigits base 0 rest).map UInt32.ofNat
  | s => (readDigits base 0 s).map UInt32.ofNat

inductive NumberFault
  | decimal (fault : NumeralFault)
  | hexadecimal (fault : NumeralFault)
  deriving DecidableEq, Repr

def NumberFault.message : NumberFault → String
  | .decimal fault => "invalid number: " ++ fault.message
  | .hexadecimal fault => "invalid hex: " ++ fault.message

end FlashImage.Text
