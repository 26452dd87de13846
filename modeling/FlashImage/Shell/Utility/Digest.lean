import FlashImage.Shell.Utility.Basic

/-!
Programs that print check sums of files.

A digest goes through blocks of 64 bytes, where the last ones hold a mark and the size of the whole.
-/

set_option autoImplicit false
set_option relaxedAutoImplicit false

namespace FlashImage.Shell.Digest

def rotateLeft (x : UInt32) (n : Nat) : UInt32 :=
  let n := UInt32.ofNat n
  (x <<< n) ||| (x >>> (32 - n))

def rotateRight (x : UInt32) (n : Nat) : UInt32 := rotateLeft x (32 - n)

def bigEndianBytes (count n : Nat) : Bytes :=
  (List.range count).map fun i => UInt8.ofNat (n / Nat.pow 256 (count - 1 - i))

/-- Bytes with a mark and their size behind them, so that they fill blocks. -/
def padded (isBigEndian : Bool) (b : Bytes) : Bytes :=
  let zeros := (119 - b.length % 64) % 64
  let size := bigEndianBytes 8 (8 * b.length)
  b ++ 128 :: List.replicate zeros 0 ++ (if isBigEndian then size else size.reverse)

def words (isBigEndian : Bool) : Bytes → List UInt32
  | a :: b :: c :: d :: rest =>
    let word (p q r s : UInt8) : UInt32 :=
      (p.toUInt32 <<< 24) ||| (q.toUInt32 <<< 16) ||| (r.toUInt32 <<< 8) ||| s.toUInt32
    (if isBigEndian then word a b c d else word d c b a) :: words isBigEndian rest
  | _ => []

def blocks : (limit : Nat) → List UInt32 → List (List UInt32)
  | 0, _ => []
  | _, [] => []
  | limit + 1, ws => ws.take 16 :: blocks limit (ws.drop 16)

def hexWord (isBigEndian : Bool) (w : UInt32) : String :=
  let b := bigEndianBytes 4 w.toNat
  let b := if isBigEndian then b else b.reverse
  let digit (n : Nat) : Char := "0123456789abcdef".toList.getD n '0'
  String.ofList (b.flatMap fun x => [digit (x.toNat / 16), digit (x.toNat % 16)])

/-- The parts of the sines of the whole numbers behind the point. -/
def sines : Array UInt32 :=
  #[0xd76aa478, 0xe8c7b756, 0x242070db, 0xc1bdceee, 0xf57c0faf, 0x4787c62a, 0xa8304613, 0xfd469501,
    0x698098d8, 0x8b44f7af, 0xffff5bb1, 0x895cd7be, 0x6b901122, 0xfd987193, 0xa679438e, 0x49b40821,
    0xf61e2562, 0xc040b340, 0x265e5a51, 0xe9b6c7aa, 0xd62f105d, 0x02441453, 0xd8a1e681, 0xe7d3fbc8,
    0x21e1cde6, 0xc33707d6, 0xf4d50d87, 0x455a14ed, 0xa9e3e905, 0xfcefa3f8, 0x676f02d9, 0x8d2a4c8a,
    0xfffa3942, 0x8771f681, 0x6d9d6122, 0xfde5380c, 0xa4beea44, 0x4bdecfa9, 0xf6bb4b60, 0xbebfbc70,
    0x289b7ec6, 0xeaa127fa, 0xd4ef3085, 0x04881d05, 0xd9d4d039, 0xe6db99e5, 0x1fa27cf8, 0xc4ac5665,
    0xf4292244, 0x432aff97, 0xab9423a7, 0xfc93a039, 0x655b59c3, 0x8f0ccc92, 0xffeff47d, 0x85845dd1,
    0x6fa87e4f, 0xfe2ce6e0, 0xa3014314, 0x4e0811a1, 0xf7537e82, 0xbd3af235, 0x2ad7d2bb, 0xeb86d391]

def turns : List (List Nat) := [[7, 12, 17, 22], [5, 9, 14, 20], [4, 11, 16, 23], [6, 10, 15, 21]]

def md5 (b : Bytes) : String :=
  let step (m : Array UInt32) (s : UInt32 × UInt32 × UInt32 × UInt32) (i : Nat) :
      UInt32 × UInt32 × UInt32 × UInt32 :=
    let (a, b, c, d) := s
    let (f, g) :=
      match i / 16 with
      | 0 => ((b &&& c) ||| (~~~b &&& d), i)
      | 1 => ((d &&& b) ||| (~~~d &&& c), 5 * i + 1)
      | 2 => (b ^^^ c ^^^ d, 3 * i + 5)
      | _ => (c ^^^ (b ||| ~~~d), 7 * i)
    let sum := a + f + sines.getD i 0 + m.getD (g % 16) 0
    let turn := (turns.getD (i / 16) []).getD (i % 4) 0
    (d, b + rotateLeft sum turn, b, c)
  let block (s : UInt32 × UInt32 × UInt32 × UInt32) (ws : List UInt32) :
      UInt32 × UInt32 × UInt32 × UInt32 :=
    let (a, b, c, d) := (List.range 64).foldl (step ws.toArray) s
    (s.1 + a, s.2.1 + b, s.2.2.1 + c, s.2.2.2 + d)
  let ws := words false (padded false b)
  let (a, b, c, d) :=
    (blocks ws.length ws).foldl block (0x67452301, 0xefcdab89, 0x98badcfe, 0x10325476)
  String.join ([a, b, c, d].map (hexWord false))

def extended (count : Nat) (next : Array UInt32 → Nat → UInt32) (ws : List UInt32) : Array UInt32 :=
  (List.range (count - 16)).foldl (fun m i => m.push (next m (i + 16))) ws.toArray

def sha1 (b : Bytes) : String :=
  let next (m : Array UInt32) (i : Nat) : UInt32 :=
    let at1 (k : Nat) : UInt32 := m.getD (i - k) 0
    rotateLeft (at1 3 ^^^ at1 8 ^^^ at1 14 ^^^ at1 16) 1
  let step (m : Array UInt32) (s : List UInt32) (i : Nat) : List UInt32 :=
    match s with
    | [a, b, c, d, e] =>
      let (f, k) : UInt32 × UInt32 :=
        match i / 20 with
        | 0 => ((b &&& c) ||| (~~~b &&& d), 0x5a827999)
        | 1 => (b ^^^ c ^^^ d, 0x6ed9eba1)
        | 2 => ((b &&& c) ||| (b &&& d) ||| (c &&& d), 0x8f1bbcdc)
        | _ => (b ^^^ c ^^^ d, 0xca62c1d6)
      [rotateLeft a 5 + f + e + k + m.getD i 0, a, rotateLeft b 30, c, d]
    | s => s
  let block (s : List UInt32) (ws : List UInt32) : List UInt32 :=
    let m := extended 80 next ws
    List.zipWith (· + ·) s ((List.range 80).foldl (step m) s)
  let ws := words true (padded true b)
  let start : List UInt32 := [0x67452301, 0xefcdab89, 0x98badcfe, 0x10325476, 0xc3d2e1f0]
  String.join (((blocks ws.length ws).foldl block start).map (hexWord true))

def roots : Array UInt32 :=
  #[0x428a2f98, 0x71374491, 0xb5c0fbcf, 0xe9b5dba5, 0x3956c25b, 0x59f111f1, 0x923f82a4, 0xab1c5ed5,
    0xd807aa98, 0x12835b01, 0x243185be, 0x550c7dc3, 0x72be5d74, 0x80deb1fe, 0x9bdc06a7, 0xc19bf174,
    0xe49b69c1, 0xefbe4786, 0x0fc19dc6, 0x240ca1cc, 0x2de92c6f, 0x4a7484aa, 0x5cb0a9dc, 0x76f988da,
    0x983e5152, 0xa831c66d, 0xb00327c8, 0xbf597fc7, 0xc6e00bf3, 0xd5a79147, 0x06ca6351, 0x14292967,
    0x27b70a85, 0x2e1b2138, 0x4d2c6dfc, 0x53380d13, 0x650a7354, 0x766a0abb, 0x81c2c92e, 0x92722c85,
    0xa2bfe8a1, 0xa81a664b, 0xc24b8b70, 0xc76c51a3, 0xd192e819, 0xd6990624, 0xf40e3585, 0x106aa070,
    0x19a4c116, 0x1e376c08, 0x2748774c, 0x34b0bcb5, 0x391c0cb3, 0x4ed8aa4a, 0x5b9cca4f, 0x682e6ff3,
    0x748f82ee, 0x78a5636f, 0x84c87814, 0x8cc70208, 0x90befffa, 0xa4506ceb, 0xbef9a3f7, 0xc67178f2]

/-- The words of a digest by the roots of primes from those that it starts with. -/
def rootDigest (start : List UInt32) (b : Bytes) : List UInt32 :=
  let next (m : Array UInt32) (i : Nat) : UInt32 :=
    let x := m.getD (i - 15) 0
    let y := m.getD (i - 2) 0
    m.getD (i - 16) 0 + (rotateRight x 7 ^^^ rotateRight x 18 ^^^ (x >>> 3)) + m.getD (i - 7) 0 +
      (rotateRight y 17 ^^^ rotateRight y 19 ^^^ (y >>> 10))
  let step (m : Array UInt32) (s : List UInt32) (i : Nat) : List UInt32 :=
    match s with
    | [a, b, c, d, e, f, g, h] =>
      let x := h + (rotateRight e 6 ^^^ rotateRight e 11 ^^^ rotateRight e 25) +
        ((e &&& f) ^^^ (~~~e &&& g)) + roots.getD i 0 + m.getD i 0
      let y := (rotateRight a 2 ^^^ rotateRight a 13 ^^^ rotateRight a 22) +
        ((a &&& b) ^^^ (a &&& c) ^^^ (b &&& c))
      [x + y, a, b, c, d + x, e, f, g]
    | s => s
  let block (s : List UInt32) (ws : List UInt32) : List UInt32 :=
    let m := extended 64 next ws
    List.zipWith (· + ·) s ((List.range 64).foldl (step m) s)
  let ws := words true (padded true b)
  (blocks ws.length ws).foldl block start

def sha256 (b : Bytes) : String :=
  let start : List UInt32 :=
    [0x6a09e667, 0xbb67ae85, 0x3c6ef372, 0xa54ff53a, 0x510e527f, 0x9b05688c, 0x1f83d9ab, 0x5be0cd19]
  String.join ((rootDigest start b).map (hexWord true))

def sha224 (b : Bytes) : String :=
  let start : List UInt32 :=
    [0xc1059ed8, 0x367cd507, 0x3070dd17, 0xf70e5939, 0xffc00b31, 0x68581511, 0x64f98fa7, 0xbefa4fa4]
  String.join (((rootDigest start b).take 7).map (hexWord true))

def cyclicSum (b : Bytes) : UInt32 :=
  let shift (r : UInt32) : UInt32 :=
    if r &&& 0x80000000 ≠ 0 then (r <<< 1) ^^^ 0x04c11db7 else r <<< 1
  let step (r : UInt32) (x : UInt8) : UInt32 :=
    (List.range 8).foldl (fun r _ => shift r) (r ^^^ (x.toUInt32 <<< 24))
  let sizeBytes := (List.range 8).map fun i => b.length / Nat.pow 256 i
  let used := (sizeBytes.reverse.dropWhile (· = 0)).reverse
  ~~~((b ++ used.map UInt8.ofNat).foldl step 0)

end FlashImage.Shell.Digest

namespace FlashImage.Shell

def printDigests (digest : Bytes → String) (arguments : List String) : Program Unit := do
  let g ← givenTo (flags "bctwz" ++ [⟨'c', "check", false⟩, ⟨'q', "quiet", false⟩,
    ⟨'s', "status", false⟩]) arguments
  let paths := if g.operands.isEmpty then ["-"] else g.operands
  if g.has 'c' then
    paths.forM fun list => do
      match ← readOperand? list with
      | .error fault => Program.object (plainPath list ++ ": " ++ faultWording fault)
      | .ok b => do
        let failed ← (textLines b).foldlM (fun failed line => do
          let sum := String.ofList (line.toList.takeWhile (· ≠ ' '))
          let path := String.ofList (line.toList.drop (sum.length + 2))
          let holds ← match ← readOperand? path with
            | .ok content => pure (digest content == sum)
            | .error _ => pure false
          if !g.has 's' && !(g.has 'q' && holds) then
            Program.printText (path ++ ": " ++ (if holds then "OK" else "FAILED") ++ "\n")
          return if holds then failed else failed + 1) 0
        if failed ≠ 0 then
          let noun := if failed = 1 then " computed checksum did" else " computed checksums did"
          Program.object ("WARNING: " ++ toString failed ++ noun ++ " NOT match")
  else
    let sign := if g.has 'b' then " *" else "  "
    readOperands paths fun path b => Program.printText (digest b ++ sign ++ path ++ "\n")

def printCyclicSums (arguments : List String) : Program Unit := do
  let g ← givenTo [] arguments
  readOperands g.operands fun path b => do
    let name := if g.operands.isEmpty then "" else " " ++ path
    Program.printText
      (toString (Digest.cyclicSum b) ++ " " ++ toString b.length ++ name ++ "\n")

end FlashImage.Shell
