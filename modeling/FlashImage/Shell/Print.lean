import FlashImage.Shell.Arithmetic
import FlashImage.Shell.Process
import FlashImage.Shell.Real

/-!
How scripts print: texts with escapes, and arguments by a format.

A format is used again as long as it takes arguments, and arguments that are missing are empty.
-/

set_option autoImplicit false
set_option relaxedAutoImplicit false

namespace FlashImage.Shell

def valueOf (base : Nat) (digits : List Char) : Nat :=
  digits.foldl (fun n d => n * base + (Text.digitValue? base d).getD 0) 0

/-- The digits at the start of a text, at most `limit`, and the text behind them. -/
def takeDigits (base : Nat) : (limit : Nat) → List Char → List Char × List Char
  | 0, s => ([], s)
  | _ + 1, [] => ([], [])
  | limit + 1, c :: rest =>
    if (Text.digitValue? base c).isSome then
      let (digits, rest) := takeDigits base limit rest
      (c :: digits, rest)
    else ([], c :: rest)

def escaped? : Char → Option Char
  | 'a' => some '\x07'
  | 'b' => some '\x08'
  | 'e' => some '\x1b'
  | 'f' => some '\x0c'
  | 'n' => some '\n'
  | 'r' => some '\r'
  | 't' => some '\t'
  | 'v' => some '\x0b'
  | '\\' => some '\\'
  | _ => none

def byteChar (n : Nat) : Char := Char.ofNat (n % 256)

def readEscape (s : List Char) : List Char × List Char :=
  match takeDigits 8 3 s with
  | ([], c :: rest) =>
    match escaped? c with
    | some d => ([d], rest)
    | none => (['\\', c], rest)
  | ([], []) => (['\\'], [])
  | (digits, rest) => ([byteChar (valueOf 8 digits)], rest)

/-- A text with its escapes replaced, and whether more may be printed behind it. The escape `c` ends
all printing, and the digits of a byte may have a zero in front. -/
def unescape : (limit : Nat) → List Char → List Char × Bool
  | 0, _ => ([], true)
  | _ + 1, [] => ([], true)
  | _ + 1, '\\' :: 'c' :: _ => ([], false)
  | limit + 1, '\\' :: '0' :: rest =>
    let (digits, rest) := takeDigits 8 3 rest
    push [byteChar (valueOf 8 digits)] (unescape limit rest)
  | limit + 1, '\\' :: rest =>
    let (b, rest) := readEscape rest
    push b (unescape limit rest)
  | limit + 1, c :: rest => push [c] (unescape limit rest)
where
  push (b : List Char) (r : List Char × Bool) : List Char × Bool := (b ++ r.1, r.2)

/-- Prints arguments with blanks between them, and a line break unless an option leaves it out. -/
def echo (arguments : List String) : Program Unit :=
  match arguments with
  | "-n" :: rest => Program.printText (words rest).1
  | rest =>
    let (b, more) := words rest
    Program.printText (if more then b ++ "\n" else b)
where
  words (arguments : List String) : String × Bool :=
    let s := String.intercalate " " arguments
    let (text, more) := unescape (s.length + 1) s.toList
    (String.ofList text, more)

/-- How a converted argument is set. -/
structure Column where
  flags : List Char
  width : Nat
  /-- The most characters of a text, and the fewest digits of a number. -/
  precision : Option Nat

def Column.fill (c : Column) (s : String) : String :=
  let blanks := String.ofList (List.replicate (c.width - s.length) ' ')
  if c.flags.contains '-' then s ++ blanks else blanks ++ s

def Column.text (c : Column) (s : String) : String :=
  c.fill (String.ofList (s.toList.take (c.precision.getD s.length)))

def Column.sign (c : Column) (negative : Bool) : String :=
  if negative then "-"
  else if c.flags.contains '+' then "+"
  else if c.flags.contains ' ' then " "
  else ""

/-- Sets the digits of a number behind what stands in front of them. -/
def Column.digits (c : Column) (lead digits : String) (mayFill : Bool) : String :=
  let zeros := mayFill && c.flags.contains '0' && !c.flags.contains '-'
  let fewest := if zeros then c.width - lead.length else 0
  c.fill (lead ++ Text.zeroFilled fewest digits)

def Column.number (c : Column) (lead digits : String) : String :=
  match c.precision with
  | some n =>
    c.digits lead (if n = 0 ∧ digits = "0" then "" else Text.zeroFilled n digits) false
  | none => c.digits lead digits true

/-- A step of printing: what has been printed and complained about, the last first, and the
arguments that are left. -/
structure Printing where
  out : List Char
  complaints : List String
  arguments : List String

/-- Why printing ends early. -/
inductive PrintingEnd
  | ended
  | refused (wording : String)
  deriving DecidableEq, Repr

abbrev Printer (α : Type) := ExceptT PrintingEnd (StateM Printing) α

namespace Printer

def put (s : List Char) : Printer Unit := modify fun p => { p with out := s.reverse ++ p.out }

def next : Printer String := do
  let p ← get
  set { p with arguments := p.arguments.tail }
  return p.arguments.headD ""

def object (wording : String) : Printer Unit := modify fun p =>
  { p with complaints := wording :: p.complaints }

end Printer

def checkRest (argument : String) (isAll : Bool) (rest : List Char) : Printer Unit := do
  if !rest.isEmpty then
    Printer.object
      (argument ++ (if isAll then ": expected numeric value" else ": not completely converted"))

/-- The number that an argument stands for, between two bounds: in base 16 or 8 by its start, or
else in base 10. A quote stands in front of a character whose number is meant. -/
def numberOf (least greatest : Int) (argument : String) : Printer Int := do
  let isBlank (c : Char) : Bool := c = ' ' || ('\t' ≤ c && c ≤ '\x0d')
  let read (s : List Char) : Option (Int × List Char) :=
    match s with
    | '-' :: s => (readNatural s).map fun (n, rest) => (-(n : Int), rest)
    | '+' :: s => (readNatural s).map fun (n, rest) => ((n : Int), rest)
    | s => (readNatural s).map fun (n, rest) => ((n : Int), rest)
  match argument.toList with
  | '\'' :: c :: _ => return c.toNat
  | '"' :: c :: _ => return c.toNat
  | s =>
    match read (s.dropWhile isBlank) with
    | none =>
      checkRest argument true s
      return 0
    | some (n, rest) =>
      checkRest argument false rest
      if n < least ∨ greatest < n then
        if rest.isEmpty then Printer.object (argument ++ ": Numerical result out of range")
        return max least (min greatest n)
      return n

def realOf (argument : String) : Printer Real := do
  match argument.toList with
  | '\'' :: c :: _ => return ⟨false, c.toNat, 1⟩
  | '"' :: c :: _ => return ⟨false, c.toNat, 1⟩
  | s =>
    match Real.read (s.dropWhile fun c => c = ' ' || c = '\t' || c = '\n') with
    | none =>
      checkRest argument true s
      return ⟨false, 0, 1⟩
    | some (x, rest) =>
      checkRest argument false rest
      return x

/-- The least number of 64 bits without a sign that is too large. -/
def wordLimit : Int := 18446744073709551616

def printWord (c : Column) (lead : String) (text : Nat → String) : Printer String := do
  let n ← numberOf (-(wordLimit - 1)) (wordLimit - 1) (← Printer.next)
  let n := (if n < 0 then n + wordLimit else n).toNat
  let lead := if c.flags.contains '#' ∧ n ≠ 0 then lead else ""
  return c.number lead (text n)

def printReal (c : Column) (isUpper : Bool) (text : Real → Nat → Bool → String) :
    Printer String := do
  let x ← realOf (← Printer.next)
  let s := text x (c.precision.getD 6) (c.flags.contains '#')
  return c.digits (c.sign x.negative) (if isUpper then s.toUpper else s) true

/-- Prints the next argument as its conversion says, if there is such a conversion. -/
def convert? (c : Column) (kind : Char) : Option (Printer String) :=
  let signed : Printer String := do
    let n ← numberOf (-numberLimit) (numberLimit - 1) (← Printer.next)
    return c.number (c.sign (decide (n < 0))) (toString n.natAbs)
  match kind with
  | 's' => some do return c.text (← Printer.next)
  | 'c' => some do return c.fill ((← Printer.next).toList.headD '\x00').toString
  | 'd' => some signed
  | 'i' => some signed
  | 'u' => some (printWord c "" toString)
  | 'o' => some (printWord c "0" fun n => String.ofList (Nat.toDigits 8 n))
  | 'x' => some (printWord c "0x" Text.lowerHex)
  | 'X' => some (printWord c "0X" Text.upperHex)
  | 'f' => some (printReal c false Real.fixedText)
  | 'F' => some (printReal c true Real.fixedText)
  | 'e' => some (printReal c false Real.scientificText)
  | 'E' => some (printReal c true Real.scientificText)
  | 'g' => some (printReal c false Real.shorterText)
  | 'G' => some (printReal c true Real.shorterText)
  | _ => none

/-- Reads a size of a column, which an asterisk takes from the arguments. -/
def readSize (s : List Char) : Printer (Int × List Char) := do
  match s with
  | '*' :: rest => return (← numberOf (-2147483648) 2147483647 (← Printer.next), rest)
  | s =>
    let (digits, rest) := takeDigits 10 s.length s
    return (valueOf 10 digits, rest)

/-- Reads the sizes of a column. The result has the text behind them. -/
def readColumn (s : List Char) : Printer (Column × List Char) := do
  let flags := s.takeWhile fun c => "#-+ 0".toList.contains c
  let (width, rest) ← readSize (s.drop flags.length)
  let flags := if width < 0 then '-' :: flags else flags
  match rest with
  | '.' :: rest =>
    let (precision, rest) ← readSize rest
    return (⟨flags, width.natAbs, if precision < 0 then none else some precision.toNat⟩, rest)
  | rest => return (⟨flags, width.natAbs, none⟩, rest)

/-- Prints by a directive behind its percent sign. The result is the text behind it. -/
def printDirective (s : List Char) : Printer (List Char) := do
  let (column, rest) ← readColumn s
  match rest with
  | [] => throw (.refused "missing format character")
  | 'b' :: rest =>
    let argument ← Printer.next
    let (text, more) := unescape (argument.length + 1) argument.toList
    Printer.put (column.text (String.ofList text)).toList
    if !more then throw .ended
    return rest
  | kind :: rest =>
    match convert? column kind with
    | some step =>
      Printer.put (← step).toList
      return rest
    | none =>
      let shown := s.take (s.length - rest.length)
      throw (.refused (String.ofList ('%' :: shown) ++ ": invalid directive"))

def printOnce : (limit : Nat) → List Char → Printer Unit
  | 0, _ => return ()
  | _ + 1, [] => return ()
  | limit + 1, '%' :: '%' :: rest => do
    Printer.put ['%']
    printOnce limit rest
  | limit + 1, '%' :: rest => do printOnce limit (← printDirective rest)
  | limit + 1, '\\' :: rest => do
    let (b, rest) := readEscape rest
    Printer.put b
    printOnce limit rest
  | limit + 1, c :: rest => do
    Printer.put [c]
    printOnce limit rest

/-- Prints by a format, which is used again as long as it takes arguments. -/
def printAgain (format : List Char) : (limit : Nat) → Printer Unit
  | 0 => return ()
  | limit + 1 => do
    let before := (← get).arguments.length
    printOnce (format.length + 1) format
    let after := (← get).arguments.length
    if after ≠ 0 ∧ after < before then printAgain format limit

def printFormatted (arguments : List String) : Program Unit := do
  let arguments :=
    match arguments with
    | "--" :: rest => rest
    | arguments => arguments
  match arguments with
  | [] =>
    Program.complain "usage: printf format [arg ...]"
    Program.finish 2
  | format :: rest =>
    let option := format.toList.take 2
    if option.length = 2 ∧ option.head? = some '-' then
      Program.complain ("Illegal option " ++ String.ofList option)
      Program.finish 2
    let (result, p) := printAgain format.toList (rest.length + 1) ⟨[], [], rest⟩
    p.complaints.reverse.forM Program.complain
    Program.printText (String.ofList p.out.reverse)
    match result with
    | .error (.refused wording) =>
      Program.complain wording
      Program.finish 2
    | _ => Program.setStatus (if p.complaints.isEmpty then 0 else 1)

end FlashImage.Shell
