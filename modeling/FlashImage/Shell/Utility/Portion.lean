import FlashImage.Shell.Utility.Passing
import FlashImage.Shell.Utility.Tree

/-!
Programs that cut files into portions, widen tabs, join lines by a field, and put files in place.
-/

set_option autoImplicit false
set_option relaxedAutoImplicit false

namespace FlashImage.Shell

/-- The name of a portion: a number in so many places, with letters or digits. -/
def portionName (digits : List Char) (places n : Nat) : String :=
  let base := digits.length
  String.ofList ((List.range places).map fun i =>
    digits.getD ((n / Nat.pow base (places - 1 - i)) % base) 'a')

def wholeLines (b : Bytes) : List Bytes :=
  let lines := linesOf b
  let ended := lines.dropLast.map (· ++ [10])
  match lines.getLast? with
  | some last => ended ++ [if b.getLast? = some 10 then last ++ [10] else last]
  | none => []

/-- Some bytes in so many portions of equal sizes. The last one takes what is left over. -/
def equalPortions (count : Nat) (b : Bytes) : List Bytes :=
  let size := b.length / count
  (List.range count).map fun i =>
    let rest := b.drop (i * size)
    if i + 1 = count then rest else rest.take size

def splitFile (arguments : List String) : Program Unit := do
  let g ← givenTo (flags "dxeu" ++ settings "ablnC" ++ [⟨'b', "bytes", true⟩,
    ⟨'l', "lines", true⟩, ⟨'n', "number", true⟩, ⟨'a', "suffix-length", true⟩,
    ⟨'d', "numeric-suffixes", false⟩, ⟨'x', "hex-suffixes", false⟩,
    ⟨'s', "additional-suffix", true⟩]) arguments
  let number (letter : Char) (noun : String) (missing : Nat) : Program Nat := do
    match g.value? letter with
    | none => return missing
    | some s =>
      match readCount? countFactors s with
      | some (n + 1) => return n + 1
      | _ => Program.refuse ("invalid number of " ++ noun ++ ": " ++ shownPath s)
  let bytes ← number 'b' "bytes" 0
  let lines ← number 'l' "lines" 1000
  let chunks ← number 'n' "chunks" 0
  let asked ← number 'a' "suffix length" 0
  let (path, lead) ← match g.operands with
    | [] => pure ("-", "x")
    | [path] => pure (path, "x")
    | [path, lead] => pure (path, lead)
    | _ :: _ :: extra :: _ => Program.refuseUsage 1 ("extra operand " ++ shownPath extra)
  let content ← match ← readOperand? path with
    | .ok b => pure b
    | .error fault =>
      Program.refuse
        ("cannot open " ++ shownPath path ++ " for reading: " ++ faultWording fault)
  let portions : List Bytes :=
    if chunks ≠ 0 then equalPortions chunks content
    else if bytes ≠ 0 then inParts bytes content.length content
    else
      let whole := wholeLines content
      (inParts lines whole.length whole).map List.flatten
  let digits := if g.has 'd' then "0123456789".toList
    else if g.has 'x' then "0123456789abcdef".toList
    else "abcdefghijklmnopqrstuvwxyz".toList
  let places := if asked ≠ 0 then asked else 2
  let _ ← portions.foldlM (fun n (b : Bytes) => do
    if Nat.pow digits.length places ≤ n then
      Program.refuse "output file suffixes exhausted"
    let name := lead ++ portionName digits places n ++ (g.value? 's').getD ""
    match ← Program.writePath name .write b with
    | .ok () => return n + 1
    | .error fault => Program.refuse (plainPath name ++ ": " ++ faultWording fault)) 0

def blanksToStop (stops : List Nat) (column : Nat) : Nat :=
  match stops with
  | [] => 8 - column % 8
  | [width] => width - column % max width 1
  | stops => ((stops.find? (column < ·)).getD (column + 1)) - column

def widened (stops : List Nat) (onlyStart : Bool) : (column : Nat) → (atStart : Bool) →
    List Char → List Char
  | _, _, [] => []
  | column, atStart, '\t' :: rest =>
    if atStart || !onlyStart then
      let count := blanksToStop stops column
      List.replicate count ' ' ++ widened stops onlyStart (column + count) atStart rest
    else '\t' :: widened stops onlyStart (column + 1) atStart rest
  | column, atStart, c :: rest =>
    c :: widened stops onlyStart (column + 1) (atStart && c = ' ') rest

def tabStops (g : Given) : List Nat :=
  (((g.value? 't').getD "").splitOn ",").filterMap decimal?

def mapLines (paths : List String) (f : List Char → List Char) : Program Unit :=
  readOperands paths fun _ b =>
    let isEnded := b.getLast? = some 10
    let lines := (textLines b).map fun line => String.ofList (f line.toList)
    Program.printText ("\n".intercalate lines ++ (if isEnded then "\n" else ""))

def widenTabs (arguments : List String) : Program Unit := do
  let g ← givenTo (flags "i" ++ settings "t" ++ [⟨'t', "tabs", true⟩, ⟨'i', "initial", false⟩])
    arguments
  mapLines g.operands (widened (tabStops g) (g.has 'i') 0 true)

def narrowed (width : Nat) (line : List Char) : List Char :=
  let lead := line.takeWhile fun c => c = ' ' || c = '\t'
  let columns := lead.foldl (fun n c => if c = '\t' then n + (width - n % width) else n + 1) 0
  List.replicate (columns / width) '\t' ++ List.replicate (columns % width) ' ' ++
    line.drop lead.length

/-- Prints files with tabs in place of the blanks at the starts of their lines. -/
def narrowTabs (arguments : List String) : Program Unit := do
  let g ← givenTo (flags "af" ++ settings "t" ++ [⟨'t', "tabs", true⟩, ⟨'a', "all", false⟩,
    ⟨'f', "first-only", false⟩]) arguments
  mapLines g.operands (narrowed (max 1 ((tabStops g).headD 8)))

def rotatedSum (b : Bytes) : Nat :=
  b.foldl (fun sum x => (sum / 2 + (sum % 2) * 32768 + x.toNat) % 65536) 0

def foldedSum (b : Bytes) : Nat :=
  let sum := (b.foldl (fun n x => n + x.toNat) 0) % 4294967296
  let once := sum % 65536 + sum / 65536
  once % 65536 + once / 65536

theorem rotatedSum_lt (b : Bytes) : rotatedSum b < 65536 := by
  have go (b : Bytes) (n : Nat) (h : n < 65536) :
      b.foldl (fun sum (x : UInt8) => (sum / 2 + (sum % 2) * 32768 + x.toNat) % 65536) n <
        65536 := by
    induction b generalizing n with
    | nil => exact h
    | cons x rest ih => exact ih _ (Nat.mod_lt _ (by omega))
  exact go b 0 (by omega)

def printShortSums (arguments : List String) : Program Unit := do
  let g ← givenTo (flags "rs" ++ [⟨'s', "sysv", false⟩]) arguments
  let places (width : Nat) (fill : Char) (n : Nat) : String :=
    let digits := toString n
    String.ofList (List.replicate (width - digits.length) fill) ++ digits
  readOperands g.operands fun path b => do
    let name := if g.operands.isEmpty then "" else " " ++ path
    let line :=
      if g.has 's' then toString (foldedSum b) ++ " " ++ toString ((b.length + 511) / 512)
      else places 5 '0' (rotatedSum b) ++ " " ++ places 5 ' ' ((b.length + 1023) / 1024)
    Program.printText (line ++ name ++ "\n")

/-- The fields of a line between blanks, or between characters of a kind. -/
def joinFields (separator : Option Char) (line : String) : List String :=
  match separator with
  | some c => line.splitOn c.toString
  | none =>
    ((line.map fun c => if c = '\t' then ' ' else c).splitOn " ").filter (· ≠ "")

def joinOnFields (arguments : List String) : Program Unit := do
  let g ← givenTo (flags "i" ++ settings "12tjave") arguments
  let separator := (g.value? 't').bind fun s => s.toList.head?
  let place (letter : Char) : Nat :=
    (((g.value? letter).orElse fun _ => g.value? 'j').bind decimal?).getD 1
  match g.operands with
  | [first, second] =>
    let read (path : String) : Program (List (List String)) := do
      return (textLines (← readAll [path])).map (joinFields separator)
    let key (letter : Char) (fields : List String) : String := fields.getD (place letter - 1) ""
    let others (letter : Char) (fields : List String) : List String :=
      fields.eraseIdx (place letter - 1)
    let a ← read first
    let b ← read second
    let line (fields : List String) : String :=
      (separator.getD ' ').toString.intercalate fields
    let joined := a.flatMap fun x =>
      let matching := b.filter fun y => key '2' y = key '1' x
      let alone := if matching.isEmpty && g.value? 'a' = some "1" then
          [line (key '1' x :: others '1' x)] else []
      let pairs := matching.map fun y => line (key '1' x :: others '1' x ++ others '2' y)
      if (g.value? 'v').isSome then
        (if matching.isEmpty then [line (key '1' x :: others '1' x)] else [])
      else alone ++ pairs
    printLines joined
  | [] => Program.refuseUsage 1 "missing operand"
  | [one] => Program.refuseUsage 1 ("missing operand after " ++ shownPath one)
  | _ :: _ :: extra :: _ => Program.refuseUsage 1 ("extra operand " ++ shownPath extra)

end FlashImage.Shell
