import FlashImage.Shell.Arithmetic
import FlashImage.Shell.Place
import FlashImage.Shell.Process

/-!
Conditions on texts, numbers and files.

A word is an operator only where it can be one: a sign for one operand needs an operand behind it,
and is itself an operand if a sign for two operands follows.
-/

set_option autoImplicit false
set_option relaxedAutoImplicit false

namespace FlashImage.Shell

def unarySigns : List String :=
  ["-b", "-c", "-d", "-e", "-f", "-g", "-h", "-k", "-L", "-p", "-r", "-s", "-t", "-u", "-w", "-x",
    "-z", "-n", "-G", "-O", "-S"]

def binarySigns : List String :=
  ["=", "!=", "<", ">", "-eq", "-ne", "-ge", "-gt", "-le", "-lt", "-nt", "-ot", "-ef"]

def joiningSigns : List String := ["!", "-a", "-o", "(", ")"]

/-- The sign at the start of some words, unless it is an operand. -/
def signOf? : List String → Option String
  | [] => none
  | s :: rest =>
    if unarySigns.contains s then
      match rest with
      | [] => none
      | [_] => some s
      | t :: _ => if binarySigns.contains t then none else some s
    else if s = "(" ∧ rest.isEmpty then none
    else if binarySigns.contains s || joiningSigns.contains s then some s
    else none

def refuseCondition {α : Type} (wording : String) : Program α := do
  Program.complain wording
  Program.finish 2

def operandNumber (s : String) : Program Int := do
  let isBlank (c : Char) : Bool := c = ' ' || ('\t' ≤ c && c ≤ '\x0d')
  let (negative, digits) :=
    match s.toList.dropWhile isBlank with
    | '-' :: digits => (true, digits)
    | '+' :: digits => (false, digits)
    | digits => (false, digits)
  let digits := (digits.reverse.dropWhile isBlank).reverse
  if digits.isEmpty || !digits.all Char.isDigit then refuseCondition ("Illegal number: " ++ s)
  let n : Nat := digits.foldl (fun n d => n * 10 + (d.toNat - '0'.toNat)) 0
  return if negative then -(n : Int) else n

def fileMeets (sign path : String) : Program Bool := do
  let w := (← get).world
  let isExecutable (l : Location) (e : Entry) : Bool :=
    match e with
    | .file _ => w.mayExecute l
    | .directory => true
    | _ => false
  if sign = "-L" || sign = "-h" then
    return match w.files.findItself (ByteText.decode path) with
      | .ok (_, .link _) => true
      | _ => false
  match device? path, w.files.find (ByteText.decode path) with
  | some _, _ => return ["-e", "-r", "-w", "-c"].contains sign
  | none, .error _ =>
    return (w.programAt? path).isSome && ["-e", "-f", "-r", "-w", "-x", "-s"].contains sign
  | none, .ok (l, e) =>
    match sign with
    | "-e" => return true
    | "-r" => return true
    | "-w" => return true
    | "-O" => return true
    | "-G" => return true
    | "-f" => return match e with
      | .file _ => true
      | _ => false
    | "-d" => return e == .directory
    | "-c" => return e == .null
    | "-s" => return match e with
      | .file b => !b.isEmpty
      | e => e == .directory
    | "-x" => return isExecutable l e
    | _ => return false

def unaryHolds (sign operand : String) : Program Bool := do
  match sign with
  | "-z" => return operand.isEmpty
  | "-n" => return !operand.isEmpty
  | "-t" =>
    let _ ← operandNumber operand
    return false
  | sign => fileMeets sign operand

def binaryHolds (a sign b : String) : Program Bool := do
  let compare (holds : Int → Int → Bool) : Program Bool := do
    return holds (← operandNumber a) (← operandNumber b)
  let fs ← Program.files
  let exists_ (path : String) : Bool := (fs.find (ByteText.decode path)).isOk
  match sign with
  | "=" => return a == b
  | "!=" => return a != b
  | "<" => return decide (a < b)
  | ">" => return decide (b < a)
  | "-eq" => compare fun m n => m == n
  | "-ne" => compare fun m n => m != n
  | "-ge" => compare fun m n => decide (m ≥ n)
  | "-gt" => compare fun m n => decide (m > n)
  | "-le" => compare fun m n => decide (m ≤ n)
  | "-lt" => compare fun m n => decide (m < n)
  | "-nt" => return exists_ a && !exists_ b
  | "-ot" => return exists_ b && !exists_ a
  | _ =>
    match fs.find (ByteText.decode a), fs.find (ByteText.decode b) with
    | .ok (l, _), .ok (m, _) => return l == m || ((← get).world.sharing l).contains m
    | _, _ => return false

abbrev Tested := Bool × List String

/-- Tests a condition without signs that join others. `whole` tests one in brackets. -/
def testPrimary (whole : List String → Program Tested) (words : List String) :
    Program Tested := do
  match signOf? words, words with
  | _, [] => return (false, [])
  | some "(", _ :: rest =>
    if signOf? rest = some ")" then return (false, rest.tail)
    let (holds, rest) ← whole rest
    match signOf? rest, rest with
    | some ")", _ :: rest => return (holds, rest)
    | _, _ => refuseCondition "closing paren expected"
  | sign, a :: rest =>
    if (sign.any (unarySigns.contains ·)) then
      match rest with
      | [] => refuseCondition (a ++ ": argument expected")
      | operand :: rest => return (← unaryHolds a operand, rest)
    else
      match signOf? rest, rest with
      | some s, _ :: behind =>
        if binarySigns.contains s then
          match behind with
          | [] => refuseCondition (s ++ ": argument expected")
          | b :: rest => return (← binaryHolds a s b, rest)
        else return (!a.isEmpty, rest)
      | _, _ => return (!a.isEmpty, rest)

/-- Tests a condition with signs for the opposite in front of it. -/
def testNegated (whole : List String → Program Tested) : List String → Program Tested
  | [] => return (false, [])
  | s :: rest =>
    if signOf? (s :: rest) = some "!" then do
      let (holds, rest) ← testNegated whole rest
      return (!holds, rest)
    else testPrimary whole (s :: rest)

def testJoined (sign : String) (join : Bool → Bool → Bool)
    (part : List String → Program Tested) : (limit : Nat) → List String → Program Tested
  | 0, words => part words
  | limit + 1, words => do
    let (holds, rest) ← part words
    if signOf? rest = some sign then
      let (others, rest) ← testJoined sign join part limit rest.tail
      return (join holds others, rest)
    else return (holds, rest)

/-- Tests a condition, down to a depth of conditions in brackets. -/
def testWhole : (depth : Nat) → List String → Program Tested
  | 0, words => return (false, words)
  | depth + 1, words =>
    let all := testJoined "-a" and (testNegated (testWhole depth)) words.length
    testJoined "-o" or all words.length words

def testAll (words : List String) : Program Bool := do
  let (holds, rest) ← testWhole (words.length + 1) words
  if !rest.isEmpty then
    let last := words.getD (words.length - rest.length - 1) ""
    refuseCondition (last ++ (if last.isEmpty then "" else ": ") ++ "unexpected operator")
  return holds

/-- Tests a condition. With three or four words, a sign for two operands in the middle counts before
a sign at the start. -/
def testWords : (limit : Nat) → List String → Program Bool
  | 0, _ => return false
  | limit + 1, words => do
    let bracketed := words.head? = some "(" && words.getLast? = some ")"
    let other : Program Bool := do
      if words.length = 3 || words.length = 4 then
        if bracketed then return ← testAll words.tail.dropLast
        if words.head? = some "!" then return !(← testWords limit words.tail)
      testAll words
    match words with
    | [] => return false
    | [a, sign, b] => if binarySigns.contains sign then binaryHolds a sign b else other
    | _ => other

def test (words : List String) : Program Unit := do
  Program.setStatus (if ← testWords (words.length + 1) words then 0 else 1)

def testBracket (words : List String) : Program Unit := do
  if words.getLast? ≠ some "]" then refuseCondition "missing ]"
  test words.dropLast

end FlashImage.Shell
