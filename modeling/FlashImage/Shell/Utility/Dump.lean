import FlashImage.Shell.Utility.Permission
import FlashImage.Shell.Utility.Content
import FlashImage.Text.Numeral

/-!
Programs that write bytes in other ways: as numbers, and as letters that stand for bits.
-/

set_option autoImplicit false
set_option relaxedAutoImplicit false

namespace FlashImage.Shell

/-- How the numbers of a dump are written. -/
structure DumpType where
  kind : Char
  size : Nat
  /-- Whether the characters stand at the end of the line. -/
  shows : Bool
  deriving DecidableEq, Repr

def DumpType.width (t : DumpType) : Nat :=
  let bits := 8 * t.size
  match t.kind with
  | 'x' => 2 * t.size
  | 'o' => (bits + 2) / 3
  | 'u' => (toString (Nat.pow 2 bits - 1)).length
  | 'd' => (toString (Nat.pow 2 (bits - 1))).length + 1
  | _ => 3

def charNames : List String :=
  ["nul", "soh", "stx", "etx", "eot", "enq", "ack", "bel", "bs", "ht", "nl", "vt", "ff", "cr", "so",
    "si", "dle", "dc1", "dc2", "dc3", "dc4", "nak", "syn", "etb", "can", "em", "sub", "esc", "fs",
    "gs", "rs", "us", "sp"]

def dumpedChar (n : Nat) : String :=
  match n with
  | 0 => "\\0"
  | 7 => "\\a"
  | 8 => "\\b"
  | 9 => "\\t"
  | 10 => "\\n"
  | 11 => "\\v"
  | 12 => "\\f"
  | 13 => "\\r"
  | n => if 32 ≤ n && n < 127 then (Char.ofNat n).toString else octalDigits 3 n

def littleEndian (b : Bytes) : Nat := b.foldr (fun x n => x.toNat + 256 * n) 0

def DumpType.text (t : DumpType) (b : Bytes) : String :=
  let n := littleEndian b
  match t.kind with
  | 'x' =>
    let digits := Nat.toDigits 16 n
    String.ofList (List.replicate (2 * t.size - digits.length) '0' ++ digits)
  | 'o' => octalDigits t.width n
  | 'u' => toString n
  | 'd' =>
    let half := Nat.pow 2 (8 * t.size - 1)
    if half ≤ n then "-" ++ toString (2 * half - n) else toString n
  | 'c' => dumpedChar n
  | _ =>
    let n := n % 128
    if n = 127 then "del"
    else if n ≤ 32 then charNames.getD n ""
    else (Char.ofNat n).toString

/-- Cuts bytes into pieces of a size, where the last one is filled with zeros. -/
def filledPieces (size : Nat) (b : Bytes) : List Bytes :=
  go b.length b
where
  go : Nat → Bytes → List Bytes
    | 0, _ => []
    | _, [] => []
    | limit + 1, b =>
      let piece := b.take size
      (piece ++ List.replicate (size - piece.length) 0) :: go limit (b.drop size)

def DumpType.line (t : DumpType) (column lineSize : Nat) (b : Bytes) : String :=
  let numbers := (filledPieces t.size b).map fun piece => " " ++ alignRight column (t.text piece)
  let text := String.join numbers
  if t.shows then
    let full := (lineSize / t.size) * (column + 1)
    let blanks := String.ofList (List.replicate (full - text.length) ' ')
    let shown := b.map fun x => if 32 ≤ x && x < 127 then Char.ofNat x.toNat else '.'
    text ++ blanks ++ "  >" ++ String.ofList shown ++ "<"
  else text

def readTypes (text : String) : (limit : Nat) → List Char → Except String (List DumpType)
  | 0, _ => .ok []
  | _, [] => .ok []
  | limit + 1, c :: rest => do
    let invalid : String := "invalid character '" ++ c.toString ++ "' in type string " ++
      shownPath text
    if !"acdoux".toList.contains c then throw invalid
    let digits := rest.takeWhile Char.isDigit
    let rest := rest.drop digits.length
    let (size, rest) :=
      match decimal? (String.ofList digits), rest with
      | some n, rest => (n, rest)
      | none, 'C' :: rest => (1, rest)
      | none, 'S' :: rest => (2, rest)
      | none, 'I' :: rest => (4, rest)
      | none, 'L' :: rest => (8, rest)
      | none, rest => (4, rest)
    let size := if c = 'a' ∨ c = 'c' then 1 else size
    if size ∉ [1, 2, 4, 8] then
      throw ("invalid type string " ++ shownPath text ++
        ";\nthis system doesn't provide a " ++ toString size ++ "-byte integral type")
    let (shows, rest) :=
      match rest with
      | 'z' :: rest => (true, rest)
      | rest => (false, rest)
    return ⟨c, size, shows⟩ :: (← readTypes text limit rest)

def dumpTypes (g : Given) : Except String (List DumpType) := do
  let types ← g.options.mapM fun (c, value) =>
    match c with
    | 't' => readTypes value (value.length + 1) value.toList
    | 'a' => .ok [⟨'a', 1, false⟩]
    | 'b' => .ok [⟨'o', 1, false⟩]
    | 'c' => .ok [⟨'c', 1, false⟩]
    | 'd' => .ok [⟨'u', 2, false⟩]
    | 'i' => .ok [⟨'d', 4, false⟩]
    | 'l' => .ok [⟨'d', 8, false⟩]
    | 'o' => .ok [⟨'o', 2, false⟩]
    | 's' => .ok [⟨'d', 2, false⟩]
    | 'x' => .ok [⟨'x', 2, false⟩]
    | _ => .ok []
  let types := types.flatten
  return if types.isEmpty then [⟨'o', 2, false⟩] else types

def addressText (radix : Char) (n : Nat) : String :=
  let padded (width : Nat) (digits : List Char) : String :=
    String.ofList (List.replicate (width - digits.length) '0' ++ digits)
  match radix with
  | 'n' => ""
  | 'd' => padded 7 (Nat.toDigits 10 n)
  | 'x' => padded 6 (Nat.toDigits 16 n)
  | _ => padded 7 (Nat.toDigits 8 n)

/-- The lines of a dump. Those that repeat the one before are shown by a star, if they may be. -/
def dumpLines (radix : Char) (types : List DumpType) (lineSize : Nat) (all : Bool)
    (start : Nat) (b : Bytes) : String :=
  let widths (t : DumpType) : Nat := t.width
  let column (t : DumpType) : Nat :=
    types.foldl (fun n u =>
      max n (((lineSize / u.size) * (widths u + 1)) / (lineSize / t.size) - 1)) (widths t)
  let show1 (address : Nat) (line : Bytes) : String :=
    let texts := types.zipIdx.map fun (t, i) =>
      let lead := addressText radix address
      let lead := if i = 0 then lead else String.ofList (List.replicate lead.length ' ')
      lead ++ t.line (column t) lineSize line ++ "\n"
    String.join texts
  let lines := pieces lineSize (b.length + 1) b
  let step (s : List String × Nat × Option Bytes × Bool) (line : Bytes) :
      List String × Nat × Option Bytes × Bool :=
    let (out, address, last, starred) := s
    if !all && last = some line && line.length = lineSize then
      (if starred then out else "*\n" :: out, address + line.length, last, true)
    else (show1 address line :: out, address + line.length, some line, false)
  let (out, address, _, _) := lines.foldl step ([], start, none, false)
  String.join out.reverse ++ (if radix = 'n' then "" else addressText radix address ++ "\n")
where
  pieces (size : Nat) : Nat → Bytes → List Bytes
    | 0, _ => []
    | _, [] => []
    | limit + 1, b => b.take size :: pieces size limit (b.drop size)

def dumpFiles (arguments : List String) : Program Unit := do
  let arguments := arguments.map fun s => if s = "-w" || s = "--width" then "-w32" else s
  let g ← givenTo (flags "abcdfilosvx" ++ settings "ANjtw" ++ [⟨'A', "address-radix", true⟩,
    ⟨'j', "skip-bytes", true⟩, ⟨'N', "read-bytes", true⟩, ⟨'t', "format", true⟩,
    ⟨'w', "width", true⟩, ⟨'v', "output-duplicates", false⟩]) arguments
  let number (letter : Char) : Program (Option Nat) := do
    match g.value? letter with
    | none => return none
    | some s =>
      let hex := ((s.toList.drop 2).mapM (Text.digitValue? 16)).map fun digits =>
        digits.foldl (fun n d => n * 16 + d) 0
      let value := if s.startsWith "0x" then hex else readCount? countFactors s
      match value with
      | some n => return some n
      | none => Program.refuse ("invalid -" ++ letter.toString ++ " argument " ++ shownPath s)
  match dumpTypes g with
  | .error wording => Program.refuse wording
  | .ok types =>
    let radix := ((g.value? 'A').getD "o").toList.headD 'o'
    let skip := (← number 'j').getD 0
    let limit ← number 'N'
    let lineSize := (← number 'w').getD 16
    let paths := if g.operands.isEmpty then ["-"] else g.operands
    let parts ← paths.filterMapM fun path => do
      match ← readOperand? path with
      | .ok b => return some b
      | .error fault =>
        Program.object (plainPath path ++ ": " ++ faultWording fault)
        return none
    if parts.isEmpty then return
    let b := parts.flatten
    let rest := b.drop skip
    let part := match limit with
      | some n => rest.take n
      | none => rest
    if b.length < skip then
      Program.refuse "cannot skip past end of combined input"
    Program.printText (dumpLines radix types lineSize (g.has 'v') skip part)

def sixBitLetters : String :=
  "ABCDEFGHIJKLMNOPQRSTUVWXYZabcdefghijklmnopqrstuvwxyz0123456789+/"

def fiveBitLetters : String := "ABCDEFGHIJKLMNOPQRSTUVWXYZ234567"

/-- How bytes are written by letters: how many bits a letter stands for, and how many bytes and
letters make up a group. -/
structure LetterCode where
  letters : String
  bits : Nat
  bytes : Nat
  size : Nat

def sixBitCode : LetterCode := ⟨sixBitLetters, 6, 3, 4⟩

def fiveBitCode : LetterCode := ⟨fiveBitLetters, 5, 5, 8⟩

/-- The letters of a group of bytes, filled up with signs of equality. -/
def LetterCode.encodeGroup (c : LetterCode) (b : Bytes) : List Char :=
  let letters := c.letters.toList.toArray
  let filled := b ++ List.replicate (c.bytes - b.length) 0
  let n := filled.foldl (fun n x => n * 256 + x.toNat) 0
  let used := (8 * b.length + c.bits - 1) / c.bits
  (List.range c.size).map fun i =>
    if i < used then
      letters.getD (n / Nat.pow 2 (c.bits * (c.size - 1 - i)) % Nat.pow 2 c.bits) 'A'
    else '='

def LetterCode.encode (c : LetterCode) (b : Bytes) : List Char :=
  go (b.length + 1) b
where
  go : Nat → Bytes → List Char
    | 0, _ => []
    | _, [] => []
    | limit + 1, b => c.encodeGroup (b.take c.bytes) ++ go limit (b.drop c.bytes)

/-- The bytes of letters up to the first group that is none. The result says whether all have been
read. -/
def LetterCode.decode (c : LetterCode) : (limit : Nat) → List Char → Bytes × Bool
  | 0, _ => ([], true)
  | _, [] => ([], true)
  | limit + 1, s =>
    let group := s.take c.size
    let letters := group.takeWhile c.letters.toList.contains
    let values := letters.filterMap fun l => c.letters.toList.idxOf? l
    let bits := c.bits * values.length
    let n := values.foldl (fun n v => n * Nat.pow 2 c.bits + v) 0
    let count := bits / 8
    let n := n / Nat.pow 2 (bits - 8 * count)
    let b := (List.range count).map fun i => UInt8.ofNat (n / Nat.pow 256 (count - 1 - i))
    let isWhole := group.length = c.size && values.length = letters.length &&
      (group.drop letters.length).all (· = '=') && 2 ≤ letters.length
    if !isWhole then (b, false)
    else
      let (rest, isRead) := c.decode limit (s.drop c.size)
      (b ++ rest, isRead)

def recode (c : LetterCode) (arguments : List String) : Program Unit := do
  let g ← givenTo (flags "di" ++ settings "w" ++ [⟨'d', "decode", false⟩,
    ⟨'i', "ignore-garbage", false⟩, ⟨'w', "wrap", true⟩]) arguments
  match g.operands.drop 1 with
  | extra :: _ => Program.refuseUsage 1 ("extra operand " ++ shownPath extra)
  | [] => pure ()
  let width ← match g.value? 'w' with
    | none => pure 76
    | some s =>
      match decimal? s with
      | some n => pure n
      | none => Program.refuse ("invalid wrap size: " ++ shownPath s)
  let path := g.operands.headD "-"
  match ← readOperand? path with
  | .error .isDirectory => Program.refuse "read error: Is a directory"
  | .error fault => Program.refuse (plainPath path ++ ": " ++ faultWording fault)
  | .ok b =>
    if g.has 'd' then
      let chars := (ByteText.ofBytes b).toList.filter (· ≠ '\n')
      let chars :=
        if g.has 'i' then chars.filter fun x => x = '=' || c.letters.toList.contains x else chars
      let (out, isRead) := c.decode (chars.length + 1) chars
      Program.print out
      if !isRead then Program.refuse "invalid input"
    else
      let chars := c.encode b
      if width = 0 then Program.printText (String.ofList chars)
      else
        let lines := (filledLines width chars.length chars).map (String.ofList · ++ "\n")
        Program.printText (String.join lines)
where
  filledLines (width : Nat) : Nat → List Char → List (List Char)
    | 0, _ => []
    | _, [] => []
    | limit + 1, s => s.take width :: filledLines width limit (s.drop width)

end FlashImage.Shell
