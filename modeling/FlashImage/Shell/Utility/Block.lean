import FlashImage.Shell.Utility.Basic

/-!
The program that copies blocks of bytes.

Blocks are read from the input, converted, and written at a position of the output. What could not
be read as a whole block counts as a part of one.
-/

set_option autoImplicit false
set_option relaxedAutoImplicit false

namespace FlashImage.Shell

def blockOperandNames : List String :=
  ["if", "of", "bs", "ibs", "obs", "cbs", "count", "skip", "iseek", "seek", "oseek", "conv",
    "status", "iflag", "oflag"]

def conversionNames : List String :=
  ["ascii", "ebcdic", "ibm", "block", "unblock", "lcase", "ucase", "sparse", "swab", "sync", "excl",
    "nocreat", "notrunc", "noerror", "fdatasync", "fsync"]

/-- A number of blocks or bytes. -/
structure BlockCount where
  number : Nat
  inBytes : Bool
  deriving DecidableEq, Repr

/-- The number that a text stands for. Factors may be put together by a sign. -/
def readBlockCount? (s : String) : Option BlockCount := do
  let inBytes := s.endsWith "B" && !(s.toList.reverse.drop 1).head?.any fun c =>
    "kKMGTPEi".toList.contains c
  let text := if inBytes then String.ofList s.toList.dropLast else s
  let factors ← (text.splitOn "x").mapM (readCount? countFactors)
  return ⟨factors.foldl (· * ·) 1, inBytes⟩

/-- A quotient, rounded to the nearest number. A half goes to the even neighbour. -/
def roundedQuotient (m n : Nat) : Nat :=
  let q := m / n
  let twice := 2 * (m % n)
  if n < twice || (twice = n && q % 2 = 1) then q + 1 else q

theorem roundedQuotient_mul (q n : Nat) (h : 0 < n) : roundedQuotient (q * n) n = q := by
  simp [roundedQuotient, Nat.mul_mod_left, Nat.mul_div_cancel q h]
  omega

/-- A size in the greatest unit that it reaches. One place is shown behind the point of a small
number. -/
def roundedSize (base n : Nat) : (units : List String) → (power : Nat) → String
  | [], power => toString (roundedQuotient n power)
  | unit :: rest, power =>
    let tenths := roundedQuotient (10 * n) power
    let whole := roundedQuotient n power
    if whole < base || rest.isEmpty then
      let shown :=
        if tenths < 100 then toString (tenths / 10) ++ "." ++ toString (tenths % 10)
        else toString whole
      shown ++ " " ++ unit
    else roundedSize base n rest (power * base)

/-- A size in brackets, in the units of powers of 1000 and of 1024 that it reaches. -/
def roundedSizes (n : Nat) : String :=
  let decimal := roundedSize 1000 n ["kB", "MB", "GB", "TB"] 1000
  let binary := roundedSize 1024 n ["KiB", "MiB", "GiB", "TiB"] 1024
  if n < 1000 then "" else if n < 1024 then " (" ++ decimal ++ ")"
  else " (" ++ decimal ++ ", " ++ binary ++ ")"

/-- How blocks are copied. -/
structure BlockCopy where
  input : Option String
  output : Option String
  inputSize : Nat
  outputSize : Nat
  /-- Whether blocks are written as they have been read. -/
  keepsBlocks : Bool
  count : Option BlockCount
  skip : BlockCount
  seek : BlockCount
  conversions : List String
  inputFlags : List String
  outputFlags : List String
  status : String

def blocksOf (size : Nat) : (limit : Nat) → Bytes → List Bytes
  | 0, _ => []
  | _, [] => []
  | limit + 1, b => b.take size :: blocksOf size limit (b.drop size)

def swapPairs : Bytes → Bytes
  | a :: b :: rest => b :: a :: swapPairs rest
  | b => b

def BlockCopy.convert (c : BlockCopy) (b : Bytes) : Bytes :=
  let has := c.conversions.contains
  let filler : UInt8 := if has "block" || has "unblock" then 32 else 0
  let b := if has "sync" then b ++ List.replicate (c.inputSize - b.length) filler else b
  let b := if has "swab" then swapPairs b else b
  let upper (x : UInt8) : UInt8 := if 97 ≤ x && x ≤ 122 then x - 32 else x
  let lower (x : UInt8) : UInt8 := if 65 ≤ x && x ≤ 90 then x + 32 else x
  if has "ucase" then b.map upper else if has "lcase" then b.map lower else b

def recordText (size : Nat) (blocks : List Bytes) : String :=
  let whole := blocks.filter fun b => b.length = size
  toString whole.length ++ "+" ++ toString (blocks.length - whole.length)

def readBlockOperand (c : BlockCopy) (text : String) : Program BlockCopy := do
  let name := String.ofList (text.toList.takeWhile (· ≠ '='))
  let value := String.ofList (text.toList.drop (name.length + 1))
  if !blockOperandNames.contains name || !text.toList.contains '=' then
    Program.refuseUsage 1 ("unrecognized operand " ++ shownPath text)
  let count : Program BlockCount := do
    match readBlockCount? value with
    | some n => return n
    | none => Program.refuse ("invalid number: " ++ shownPath value)
  let size : Program Nat := do
    let n ← count
    if n.number = 0 then Program.refuse ("invalid number: " ++ shownPath value)
    return n.number
  match name with
  | "if" => return { c with input := some value }
  | "of" => return { c with output := some value }
  | "bs" =>
    let n ← size
    return { c with inputSize := n, outputSize := n, keepsBlocks := true }
  | "ibs" =>
    let n ← size
    return if c.keepsBlocks then c else { c with inputSize := n }
  | "obs" =>
    let n ← size
    return if c.keepsBlocks then c else { c with outputSize := n }
  | "cbs" =>
    let _ ← size
    return c
  | "count" => return { c with count := some (← count) }
  | "skip" => return { c with skip := ← count }
  | "iseek" => return { c with skip := ← count }
  | "seek" => return { c with seek := ← count }
  | "oseek" => return { c with seek := ← count }
  | "conv" =>
    let names := value.splitOn ","
    match names.find? (!conversionNames.contains ·) with
    | some bad => Program.refuseUsage 1 ("invalid conversion: " ++ shownPath bad)
    | none => return { c with conversions := c.conversions ++ names }
  | "status" =>
    if value ∉ ["none", "noxfer", "progress"] then
      Program.refuseUsage 1 ("invalid status level: " ++ shownPath value)
    return { c with status := value }
  | "iflag" => return { c with inputFlags := c.inputFlags ++ value.splitOn "," }
  | _ => return { c with outputFlags := c.outputFlags ++ value.splitOn "," }

def bytesIn (size : Nat) (isBytes : Bool) (n : BlockCount) : Nat :=
  if n.inBytes || isBytes then n.number else n.number * size

/-- Reads what is to be copied, and whether it could be skipped to. -/
def readBlocks (c : BlockCopy) : Program (Bytes × Bool) := do
  let skip := bytesIn c.inputSize (c.inputFlags.contains "skip_bytes") c.skip
  let limit := c.count.map (bytesIn c.inputSize (c.inputFlags.contains "count_bytes"))
  let all ← match c.input with
    | none => do
      let b ← Program.peekInput
      let used := match limit with
        | some n => min b.length (skip + n)
        | none => b.length
      Program.consume used
      pure b
    | some path =>
      match ← Program.readPath path with
      | .ok b => pure b
      | .error .isDirectory =>
        Program.complain ("error reading " ++ shownPath path ++ ": Is a directory")
        Program.setStatus 1
        pure []
      | .error fault =>
        Program.refuse ("failed to open " ++ shownPath path ++ ": " ++ faultWording fault)
  let rest := all.drop skip
  return (match limit with
    | some n => rest.take n
    | none => rest, skip ≤ all.length)

/-- Writes bytes to a file at a position, and cuts it before or behind. -/
def writeBlocks (c : BlockCopy) (path : String) (b : Bytes) : Program Unit := do
  let position := bytesIn c.outputSize (c.outputFlags.contains "seek_bytes") c.seek
  let fs ← Program.files
  let before := (fs.read (ByteText.decode path)).toOption
  let has := c.conversions.contains
  let refuse (fault : FileFault) : Program Unit :=
    Program.refuse ("failed to open " ++ shownPath path ++ ": " ++ faultWording fault)
  match before with
  | none => if has "nocreat" then return ← refuse .notFound
  | some _ => if has "excl" then return ← refuse .alreadyExists
  let content := before.getD []
  let kept := if has "notrunc" then content else content.take position
  let content :=
    if c.outputFlags.contains "append" then kept ++ b
    else if b.isEmpty && has "notrunc" then kept
    else World.overwritten kept position b
  match ← Program.writePath path .write content with
  | .ok () => return ()
  | .error fault => refuse fault

def copyBlocks (arguments : List String) : Program Unit := do
  let start : BlockCopy :=
    ⟨none, none, 512, 512, false, none, ⟨0, false⟩, ⟨0, false⟩, [], [], [], ""⟩
  let c ← (arguments.filter (· ≠ "--")).foldlM readBlockOperand start
  let (content, isThere) ← readBlocks c
  if !isThere then
    if c.input.isSome then
      Program.complain ((c.input.getD "") ++ ": cannot skip to specified offset")
  let blocks := blocksOf c.inputSize (content.length + 1) content
  let converted := blocks.map c.convert
  let out := converted.flatten
  match c.output with
  | some path => writeBlocks c path out
  | none => Program.print out
  if c.status ≠ "none" then
    let written :=
      if c.keepsBlocks then converted else blocksOf c.outputSize (out.length + 1) out
    let n := out.length
    let name := if n = 1 then " byte" else " bytes"
    let lines :=
      recordText c.inputSize blocks ++ " records in\n" ++
        recordText c.outputSize written ++ " records out\n" ++
        (if c.status = "noxfer" then ""
          else toString n ++ name ++ roundedSizes n ++ " copied, 0.0001 s, 0.0 kB/s\n")
    Program.printTo 2 (ByteText.toBytes lines)

end FlashImage.Shell
