import FlashImage.Number
import FlashImage.Text.Case

/-!
Sizes: a count of bytes, kibibytes or mebibytes.

Board files give a count and its unit. Layout files and listings write a size as text, such as
`40 KiB`.
-/

set_option autoImplicit false
set_option relaxedAutoImplicit false

namespace FlashImage

inductive SizeUnit
  | byte
  | kibibyte
  | mebibyte
  deriving DecidableEq, Repr

def SizeUnit.factor : SizeUnit → Nat
  | .byte => 1
  | .kibibyte => 1024
  | .mebibyte => 1024 * 1024

def SizeUnit.symbol : SizeUnit → String
  | .byte => "B"
  | .kibibyte => "KiB"
  | .mebibyte => "MiB"

structure Size where
  count : UInt32
  unit : SizeUnit
  deriving DecidableEq, Repr

namespace Size

def bytes? (s : Size) : Option UInt32 :=
  let n := s.count.toNat * s.unit.factor
  if n < UInt32.size then some (UInt32.ofNat n) else none

def text (s : Size) : String :=
  s.unit.symbol ++ "(" ++ toString s.count.toNat ++ ")"

def format (bytes : Nat) : String :=
  if 1024 * 1024 ≤ bytes ∧ bytes % (1024 * 1024) = 0 then
    toString (bytes / (1024 * 1024)) ++ " MiB"
  else if 1024 ≤ bytes ∧ bytes % 1024 = 0 then
    toString (bytes / 1024) ++ " KiB"
  else
    toString bytes ++ " B"

inductive Fault
  | invalid (text : String)
  | tooLarge (text : String)
  deriving DecidableEq, Repr

def Fault.message : Fault → String
  | .invalid text => "invalid size: " ++ text
  | .tooLarge text => "size too large: " ++ text

/-- The endings that name a unit, in lower case, each before the endings that it ends in. -/
def endings : List (List Char × SizeUnit) :=
  [(['m', 'i', 'b'], .mebibyte), (['m', 'b'], .mebibyte), (['k', 'i', 'b'], .kibibyte),
    (['k', 'b'], .kibibyte), (['b'], .byte)]

def dropEnding? (ending s : List Char) : Option (List Char) :=
  if ending.isSuffixOf s then some (s.take (s.length - ending.length)) else none

/-- Splits a text in lower case into its count and its unit. -/
def splitUnit? (s : List Char) : Option (List Char × SizeUnit) :=
  endings.findSome? fun (ending, unit) =>
    (dropEnding? ending s).map fun count => (Text.trim count, unit)

def read (s : String) : Except Fault UInt32 :=
  let trimmed := Text.trim s.toList
  match readTrimmedNumber trimmed with
  | .ok n => .ok n
  | .error _ =>
    let invalid := Fault.invalid (String.ofList trimmed)
    match splitUnit? (Text.lower trimmed) with
    | none => .error invalid
    | some (count, unit) =>
      match Text.readNumeral 10 count with
      | .error _ => .error invalid
      | .ok n =>
        match Size.bytes? ⟨n, unit⟩ with
        | some bytes => .ok bytes
        | none => .error (.tooLarge (String.ofList trimmed))

end Size
end FlashImage
