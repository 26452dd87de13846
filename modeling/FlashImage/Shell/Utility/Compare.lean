import FlashImage.Shell.Utility.Basic

/-!
Programs that compare files, byte by byte and line by line.

A comparison of lines keeps a longest row of lines that both files have. What is left of the first
file is taken away there, and what is left of the second one is added.
-/

set_option autoImplicit false
set_option relaxedAutoImplicit false

namespace FlashImage.Shell

def compareTrouble : Nat := 2

def refuseComparison {α : Type} (wording : String) : Program α := do
  Program.complain wording
  let name := (← get).speaker
  Program.complain ("Try '" ++ name ++ " --help' for more information.")
  Program.finish compareTrouble

def readCompared (path : String) : Program Bytes := do
  match ← readOperand? path with
  | .ok b => return b
  | .error fault =>
    Program.complain (plainPath path ++ ": " ++ faultWording fault)
    Program.finish compareTrouble

/-- The number of bytes that two texts have in common at their starts. -/
def commonSize : Bytes → Bytes → Nat
  | x :: a, y :: b => if x = y then commonSize a b + 1 else 0
  | _, _ => 0

theorem take_commonSize (a b : Bytes) : a.take (commonSize a b) = b.take (commonSize a b) := by
  induction a generalizing b with
  | nil => simp [commonSize]
  | cons x a ih =>
    cases b with
    | nil => simp [commonSize]
    | cons y b =>
      by_cases h : x = y
      · simp [commonSize, h, ih]
      · simp [commonSize, h]

def differences (a b : Bytes) : List (Nat × UInt8 × UInt8) :=
  ((a.zip b).zipIdx.filter fun ((x, y), _) => x ≠ y).map fun ((x, y), i) => (i + 1, x, y)

def compareBytes (arguments : List String) : Program Unit := do
  let g ← givenTo (flags "bls" ++ settings "ni" ++ [⟨'s', "quiet", false⟩, ⟨'s', "silent", false⟩,
    ⟨'l', "verbose", false⟩, ⟨'n', "bytes", true⟩, ⟨'i', "ignore-initial", true⟩,
    ⟨'b', "print-bytes", false⟩]) arguments
  let (first, second, skips) ← match g.operands with
    | [] => refuseComparison ("missing operand after " ++ shownPath (← get).speaker)
    | first :: rest =>
      if 4 < g.operands.length then
        refuseComparison ("extra operand " ++ shownPath (g.operands.getD 4 ""))
      let skips := (rest.drop 1).map fun s => (readCount? countFactors s).getD 0
      pure (first, rest.headD "-", skips)
  let number (letter : Char) : Option Nat := (g.value? letter).bind (readCount? countFactors ·)
  let skip := (number 'i').getD 0
  let limit := number 'n'
  let cut (i : Nat) (b : Bytes) : Bytes :=
    let b := b.drop (skip + skips.getD i 0)
    match limit with
    | some n => b.take n
    | none => b
  let a := cut 0 (← readCompared first)
  let b := cut 1 (← readCompared second)
  if a = b then return
  Program.setStatus 1
  let octal (x : UInt8) : String :=
    let digits := String.ofList (Nat.toDigits 8 x.toNat)
    String.ofList (List.replicate (3 - digits.length) ' ') ++ digits
  let all := differences a b
  if g.has 'l' then
    let width := (toString (min a.length b.length)).length
    let place (n : Nat) : String :=
      let digits := toString n
      String.ofList (List.replicate (width - digits.length) ' ') ++ digits
    printLines (all.map fun (n, x, y) => place n ++ " " ++ octal x ++ " " ++ octal y)
  if g.has 's' then return
  let size := commonSize a b
  let line := ((a.take size).filter (· = 10)).length + 1
  if size < a.length && size < b.length then
    if !g.has 'l' then
      let noun := if g.has 'b' then "byte" else "char"
      let shown := match g.has 'b', all.head? with
        | true, some (_, x, y) =>
          " is " ++ octal x ++ " " ++ (Char.ofNat x.toNat).toString ++ " " ++ octal y ++ " " ++
            (Char.ofNat y.toNat).toString
        | _, _ => ""
      Program.printText (first ++ " " ++ second ++ " differ: " ++ noun ++ " " ++
        toString (size + 1) ++ ", line " ++ toString line ++ shown ++ "\n")
  else
    let shorter := if a.length ≤ b.length then first else second
    if min a.length b.length = 0 then Program.object ("EOF on " ++ shorter ++ " which is empty")
    else
      let whole := if a.length ≤ b.length then a else b
      let isBroken := whole.getLast? ≠ some 10
      let ends := (whole.filter (· = 10)).length
      let where_ := if isBroken then ", in line " ++ toString (ends + 1)
        else ", line " ++ toString ends
      Program.object ("EOF on " ++ shorter ++ " after byte " ++ toString whole.length ++
        (if g.has 'l' then "" else where_))

/-- A line of a comparison. -/
inductive DiffLine
  | kept (line : Bytes)
  | removed (line : Bytes)
  | added (line : Bytes)
  deriving DecidableEq, Repr

/-- The rows of the lengths of longest rows of common lines, from each place on to the ends. -/
def commonRows (a b : List Bytes) : List (List Nat) :=
  a.foldr (fun x rows =>
    let below := rows.headD []
    let row := (b.zip (below.zip (below.drop 1))).foldr
      (fun (y, diagonal, next) row =>
        (if x = y then next + 1 else max diagonal (row.headD 0)) :: row) [0]
    row :: rows) [List.replicate (b.length + 1) 0]

/-- Goes through the second file up to where a line of the first one is kept or removed, along the
lengths here and below from a column on. From there it goes on with the lines that are left. -/
def diffAcross (x : Bytes) (onward : (column : Nat) → List Bytes → List DiffLine) :
    (column : Nat) → (here below : List Nat) → List Bytes → List DiffLine
  | column, _ :: right, down :: downs, y :: rest =>
    if x = y then .kept x :: onward (column + 1) rest
    else if right.headD 0 ≤ down then .removed x :: onward column (y :: rest)
    else .added y :: diffAcross x onward (column + 1) right downs rest
  | column, _, _, rest => .removed x :: onward column rest

/-- Goes through two files along a longest row of common lines. The rows of lengths are looked at
from a column on. -/
def diffLines : List (List Nat) → (column : Nat) → List Bytes → List Bytes → List DiffLine
  | row :: rows, column, x :: a, b =>
    diffAcross x (fun column rest => diffLines rows column a rest) column (row.drop column)
      ((rows.headD []).drop column) b
  | _, _, _, b => b.map .added

/-- A part of a comparison: where it starts in both files, and its lines. -/
structure DiffPart where
  first : Nat
  second : Nat
  removed : List Bytes
  added : List Bytes

def diffParts : (first second : Nat) → List DiffLine → List DiffPart
  | _, _, [] => []
  | m, n, .kept _ :: rest => diffParts (m + 1) (n + 1) rest
  | m, n, .removed x :: rest =>
    match diffParts (m + 1) n rest with
    | p :: parts =>
      if p.first = m + 1 ∧ p.second = n then ⟨m, n, x :: p.removed, p.added⟩ :: parts
      else ⟨m, n, [x], []⟩ :: p :: parts
    | [] => [⟨m, n, [x], []⟩]
  | m, n, .added y :: rest =>
    match diffParts m (n + 1) rest with
    | p :: parts =>
      if p.first = m ∧ p.second = n + 1 then ⟨m, n, p.removed, y :: p.added⟩ :: parts
      else ⟨m, n, [], [y]⟩ :: p :: parts
    | [] => [⟨m, n, [], [y]⟩]

def lineRange (start count : Nat) : String :=
  if count = 0 then toString start
  else if count = 1 then toString (start + 1)
  else toString (start + 1) ++ "," ++ toString (start + count)

def DiffPart.lines (p : DiffPart) : List String :=
  let letter := if p.removed.isEmpty then "a" else if p.added.isEmpty then "d" else "c"
  let head := lineRange p.first p.removed.length ++ letter ++ lineRange p.second p.added.length
  let mark := if p.removed.isEmpty || p.added.isEmpty then [] else ["---"]
  head :: p.removed.map (fun x => "< " ++ ByteText.ofBytes x) ++ mark ++
    p.added.map (fun y => "> " ++ ByteText.ofBytes y)

def showDifferences (arguments : List String) : Program Unit := do
  let g ← readGiven (flags "abBdiNqrstuwZ" ++ [⟨'q', "brief", false⟩,
    ⟨'s', "report-identical-files", false⟩]) compareTrouble false (arguments.length + 1)
    arguments
  let (first, second) ← match g.operands with
    | [first, second] => pure (first, second)
    | [] => refuseComparison ("missing operand after " ++ shownPath (← get).speaker)
    | [first] => refuseComparison ("missing operand after " ++ shownPath first)
    | _ :: _ :: extra :: _ => refuseComparison ("extra operand " ++ shownPath extra)
  let within (directory path : String) : Program String := do
    if (← Program.isDirectory directory) && path ≠ "-" then
      let name := (path.splitOn "/").getLastD path
      return (if directory.endsWith "/" then directory else directory ++ "/") ++ name
    return directory
  let left ← within first second
  let right ← within second first
  let a ← readCompared left
  let b ← readCompared right
  if a = b then
    if g.has 's' then
      Program.printText ("Files " ++ left ++ " and " ++ right ++ " are identical\n")
  else
    Program.setStatus 1
    if g.has 'q' then
      Program.printText ("Files " ++ left ++ " and " ++ right ++ " differ\n")
    else
      let (a, b) := (linesOf a, linesOf b)
      let lines := diffLines (commonRows a b) 0 a b
      printLines ((diffParts 0 0 lines).flatMap DiffPart.lines)

end FlashImage.Shell
