import FlashImage.Shell.Utility.Digest
import FlashImage.Text.Numeral

/-!
Digests with words of 64 bits.

The numbers that go into them are parts of the roots of primes behind the point, so they are worked
out and not listed.
-/

set_option autoImplicit false
set_option relaxedAutoImplicit false

namespace FlashImage.Shell.Digest

/-- The greatest number below `2 ^ bits` that meets a condition, which has to hold up to it. -/
def greatest (meets : Nat → Bool) : (bits : Nat) → (found : Nat) → Nat
  | 0, found => found
  | bits + 1, found =>
    let next := found + Nat.pow 2 bits
    greatest meets bits (if meets next then next else found)

def primes (count : Nat) : List Nat :=
  ((List.range 420).filter fun n =>
    2 ≤ n && (List.range n).all fun d => d < 2 || n % d ≠ 0).take count

/-- The first 64 bits of the square root of a number behind the point. -/
def squareRootBits (n : Nat) : UInt64 :=
  UInt64.ofNat (greatest (fun r => r * r ≤ n * Nat.pow 2 128) 72 0)

/-- The first 64 bits of the cube root of a number behind the point. -/
def cubeRootBits (n : Nat) : UInt64 :=
  UInt64.ofNat (greatest (fun r => r * r * r ≤ n * Nat.pow 2 192) 72 0)

def turnRight (x : UInt64) (n : UInt64) : UInt64 := (x >>> n) ||| (x <<< (64 - n))

def wideWords (b : Bytes) : List UInt64 :=
  (List.range (b.length / 8)).foldr (fun i ws => wordAt b.toArray i :: ws) []
where
  wordAt (b : Array UInt8) (i : Nat) : UInt64 :=
    (List.range 8).foldl (fun w j => (w <<< 8) ||| (b.getD (8 * i + j) 0).toUInt64) 0

/-- Bytes with what fills them up to whole blocks: a bit, zeros, and their size. -/
def widePadded (b : Bytes) : Bytes :=
  let zeros := (239 - b.length % 128) % 128
  let size := (List.range 16).reverse.map fun i =>
    UInt8.ofNat (8 * b.length / Nat.pow 256 i)
  b ++ [0x80] ++ List.replicate zeros 0 ++ size

def wideHex (x : UInt64) : String := Text.zeroFilled 16 (Text.lowerHex x.toNat)

def wideDigest (start : List UInt64) (b : Bytes) : List UInt64 :=
  let factors := ((primes 80).map cubeRootBits).toArray
  let more (ws : List UInt64) : Array UInt64 :=
    (List.range 64).foldl (fun m i =>
      let x := m.getD (i + 1) 0
      let y := m.getD (i + 14) 0
      m.push (m.getD i 0 + (turnRight x 1 ^^^ turnRight x 8 ^^^ (x >>> 7)) + m.getD (i + 9) 0 +
        (turnRight y 19 ^^^ turnRight y 61 ^^^ (y >>> 6)))) ws.toArray
  let step (m : Array UInt64) (s : List UInt64) (i : Nat) : List UInt64 :=
    match s with
    | [a, b, c, d, e, f, g, h] =>
      let x := h + (turnRight e 14 ^^^ turnRight e 18 ^^^ turnRight e 41) +
        ((e &&& f) ^^^ (~~~e &&& g)) + factors.getD i 0 + m.getD i 0
      let y := (turnRight a 28 ^^^ turnRight a 34 ^^^ turnRight a 39) +
        ((a &&& b) ^^^ (a &&& c) ^^^ (b &&& c))
      [x + y, a, b, c, d + x, e, f, g]
    | s => s
  let block (s : List UInt64) (ws : List UInt64) : List UInt64 :=
    List.zipWith (· + ·) s ((List.range 80).foldl (step (more ws)) s)
  let ws := wideWords (widePadded b)
  let starts := (List.range (ws.length / 16)).map fun i => (ws.drop (16 * i)).take 16
  starts.foldl block start

def sha512 (b : Bytes) : String :=
  String.join ((wideDigest ((primes 8).map squareRootBits) b).map wideHex)

def sha384 (b : Bytes) : String :=
  let start := ((primes 16).drop 8).map squareRootBits
  String.join (((wideDigest start b).take 6).map wideHex)

end FlashImage.Shell.Digest
