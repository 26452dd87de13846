import FlashImage.Shell.Regex.Reader
import FlashImage.Shell.Utility.Sort

/-!
Programs that calculate: rows of numbers, and the values of expressions.
-/

set_option autoImplicit false
set_option relaxedAutoImplicit false

namespace FlashImage.Shell

/-- A number with a fixed count of decimals. -/
structure FixedNumber where
  /-- The number without its point. -/
  value : Int
  decimals : Nat
  deriving DecidableEq, Repr

def FixedNumber.scaled (n : FixedNumber) (decimals : Nat) : Int :=
  n.value * (Nat.pow 10 (decimals - n.decimals) : Nat)

def readFixed? (s : String) : Option FixedNumber := do
  let (sign, rest) : Int × List Char :=
    match s.toList with
    | '-' :: rest => (-1, rest)
    | '+' :: rest => (1, rest)
    | rest => (1, rest)
  let whole := rest.takeWhile Char.isDigit
  let rest := rest.drop whole.length
  let (fraction, rest) :=
    match rest with
    | '.' :: rest => (rest.takeWhile Char.isDigit, rest.dropWhile Char.isDigit)
    | rest => ([], rest)
  if whole.isEmpty && fraction.isEmpty then none
  let number (digits : List Char) : Nat :=
    digits.foldl (fun n d => n * 10 + (d.toNat - '0'.toNat)) 0
  let value : Int := sign * (number (whole ++ fraction) : Nat)
  let exponent (negative : Bool) (digits : List Char) : Option FixedNumber :=
    if digits.isEmpty || !digits.all Char.isDigit then none
    else
      let n := number digits
      if negative then some ⟨value, fraction.length + n⟩
      else if fraction.length ≤ n then
        some ⟨value * (Nat.pow 10 (n - fraction.length) : Nat), 0⟩
      else some ⟨value, fraction.length - n⟩
  match rest with
  | [] => return ⟨value, fraction.length⟩
  | e :: '-' :: digits => if e = 'e' ∨ e = 'E' then exponent true digits else none
  | e :: '+' :: digits => if e = 'e' ∨ e = 'E' then exponent false digits else none
  | e :: digits => if e = 'e' ∨ e = 'E' then exponent false digits else none

/-- The text of a number without its point, with so many decimals. -/
def fixedText (value : Int) (decimals : Nat) : String :=
  let digits := toString value.natAbs
  let digits := String.ofList (List.replicate (decimals + 1 - digits.length) '0') ++ digits
  let whole := String.ofList (digits.toList.take (digits.length - decimals))
  let fraction := String.ofList (digits.toList.drop (digits.length - decimals))
  (if value < 0 then "-" else "") ++ whole ++ (if decimals = 0 then "" else "." ++ fraction)

def rowOf (first step last : Int) : List Int :=
  if step = 0 then []
  else
    let count := (last - first) / step + 1
    (List.range count.toNat).map fun (i : Nat) => first + step * i

def padZeros (width : Nat) (s : String) : String :=
  let (sign, digits) :=
    match s.toList with
    | '-' :: digits => (['-'], digits)
    | digits => ([], digits)
  String.ofList (sign ++ List.replicate (width - s.length) '0' ++ digits)

def formatNumber (format : String) (value : Int) (decimals : Nat) : Except String String := do
  let chars := format.toList
  let before := chars.takeWhile (· ≠ '%')
  match chars.drop before.length with
  | [] => throw ("format " ++ shownPath format ++ " has no % directive")
  | _ :: rest =>
    let flags := rest.takeWhile fun c => "-+ 0#'".toList.contains c
    let rest := rest.drop flags.length
    let width := rest.takeWhile Char.isDigit
    let rest := rest.drop width.length
    let (precision, rest) :=
      match rest with
      | '.' :: rest => (some (rest.takeWhile Char.isDigit), rest.dropWhile Char.isDigit)
      | rest => (none, rest)
    let precision := precision.map fun d => (decimal? (String.ofList d)).getD 0
    let width := (decimal? (String.ofList width)).getD 0
    match rest with
    | kind :: behind =>
      let places := if kind = 'f' then precision.getD 6 else decimals
      let scaled : Int :=
        if decimals ≤ places then value * (Nat.pow 10 (places - decimals) : Nat)
        else
          let divisor : Int := (Nat.pow 10 (decimals - places) : Nat)
          (2 * value + divisor) / (2 * divisor)
      let text := fixedText scaled places
      let text :=
        if kind = 'g' && text.toList.contains '.' then
          let kept := (text.toList.reverse.dropWhile (· = '0')).dropWhile (· = '.')
          String.ofList kept.reverse
        else text
      let text := if flags.contains '+' && 0 ≤ value then "+" ++ text else text
      let text :=
        if flags.contains '-' then text ++ String.ofList (List.replicate (width - text.length) ' ')
        else if flags.contains '0' then padZeros width text
        else alignRight width text
      return String.ofList before ++ text ++ (String.ofList behind).replace "%%" "%"
    | [] => throw ("format " ++ shownPath format ++ " ends in %")

def printRow (arguments : List String) : Program Unit := do
  let isNegative (s : String) : Bool :=
    s.startsWith "-" && (s.toList.drop 1).head?.any fun c => c.isDigit || c = '.'
  let options := arguments.takeWhile (!isNegative ·)
  let g ← givenStrictlyTo (flags "w" ++ settings "sf" ++ [⟨'s', "separator", true⟩,
    ⟨'w', "equal-width", false⟩, ⟨'f', "format", true⟩]) options
  let operands := g.operands ++ arguments.drop options.length
  let read (s : String) : Program FixedNumber := do
    match readFixed? s with
    | some n => return n
    | none => Program.refuseUsage 1 ("invalid floating point argument: " ++ shownPath s)
  let one : FixedNumber := ⟨1, 0⟩
  let (first, step, last) ← match operands with
    | [] => Program.refuseUsage 1 "missing operand"
    | [last] => do pure (one, one, ← read last)
    | [first, last] => do pure (← read first, one, ← read last)
    | [first, step, last] => do
      let n ← read step
      if n.value = 0 then
        Program.refuseUsage 1 ("invalid Zero increment value: " ++ shownPath step)
      pure (← read first, n, ← read last)
    | _ :: _ :: _ :: extra :: _ =>
      Program.refuseUsage 1 ("extra operand " ++ shownPath extra)
  let decimals := max first.decimals step.decimals
  let common := max decimals last.decimals
  let row := rowOf (first.scaled common) (step.scaled common) (last.scaled common)
  let divisor : Int := (Nat.pow 10 (common - decimals) : Nat)
  let row : List Int := row.map fun n => n / divisor
  let plain := row.map (fixedText · decimals)
  let shownLast := fixedText (last.scaled common / divisor) decimals
  let width := (shownLast :: plain.take 1).foldl (fun n s => max n s.length) 0
  let texts ← match g.value? 'f' with
    | some format =>
      match row.mapM (formatNumber format · decimals) with
      | .ok texts => pure texts
      | .error wording => Program.refuse wording
    | none => pure (if g.has 'w' then plain.map (padZeros width) else plain)
  if !texts.isEmpty then
    Program.printText (((g.value? 's').getD "\n").intercalate texts ++ "\n")

def integerText? (s : String) : Option Int :=
  match s.toList with
  | '-' :: digits => (decimal? (String.ofList digits)).map fun n => -(n : Int)
  | _ => (decimal? s).map fun n => (n : Int)

def isNothing (s : String) : Bool :=
  s.isEmpty || (let digits := if s.startsWith "-" then s.toList.drop 1 else s.toList
    !digits.isEmpty && digits.all (· = '0'))

/-- A step of finding the value of an expression, with the words that are left and the last word
that has been taken. -/
abbrev Calculation (α : Type) := StateT (List String × String) (Except (Nat × String)) α

namespace Calculation

def fail {α : Type} (wording : String) (status : Nat) : Calculation α := throw (status, wording)

def take : Calculation String := do
  match ← get with
  | (word :: rest, _) =>
    set (rest, word)
    return word
  | ([], last) => fail ("syntax error: missing argument after " ++ shownPath last) 2

def accept? (words : List String) : Calculation (Option String) := do
  match ← get with
  | (word :: rest, last) =>
    if words.contains word then
      set (rest, word)
      return some word
    else
      set (word :: rest, last)
      return none
  | ([], _) => return none

/-- What a pattern fits at the start of a text: its group if it has one, and else its size. -/
def fit (text pattern : String) : Calculation String := do
  match Regex.read false false pattern with
  | .error wording => fail wording 2
  | .ok (r, groups) =>
    let chars := text.toList.toArray
    match Regex.farthest? (r.ends ⟨chars, false, false⟩ ⟨0, []⟩) with
    | none => return if groups = 0 then "0" else ""
    | some p =>
      if groups = 0 then return toString p.position
      else
        match p.groups.lookup 1 with
        | some (a, b) => return String.ofList (chars.extract a b).toList
        | none => return ""

def number (s : String) : Calculation Int := do
  match integerText? s with
  | some n => return n
  | none => fail "non-integer argument" 2

def partOf (text start size : String) : String :=
  match integerText? start, integerText? size with
  | some i, some n =>
    if i ≤ 0 || n ≤ 0 then ""
    else String.ofList ((text.toList.drop (i.toNat - 1)).take n.toNat)
  | _, _ => ""

def placeOf (text chars : String) : String :=
  match text.toList.findIdx? fun c => chars.toList.contains c with
  | some i => toString (i + 1)
  | none => "0"

/-- Finds the value of operators of one level, which group to the left. -/
def level (operators : List String) (apply : String → String → String → Calculation String)
    (part : Calculation String) : Calculation String := do
  let rec go (limit : Nat) (a : String) : Calculation String := do
    match limit with
    | 0 => return a
    | limit + 1 =>
      match ← accept? operators with
      | none => return a
      | some op => go limit (← apply op a (← part))
  let first ← part
  go (← get).1.length first

/-- The value of a whole expression, down to a depth of brackets. -/
def whole : (depth : Nat) → Calculation String
  | 0 => fail "syntax error" 2
  | depth + 1 => do
    let rec primary (limit : Nat) : Calculation String := do
      match limit with
      | 0 => take
      | limit + 1 =>
        let word ← take
        let hasMore := !(← get).1.isEmpty
        match word with
        | "(" =>
          let value ← whole depth
          match ← get with
          | (")" :: rest, _) =>
            set (rest, ")")
            return value
          | ([], last) => fail ("syntax error: expecting ')' after " ++ shownPath last) 2
          | (other :: _, _) => fail ("syntax error: expecting ')' instead of " ++ shownPath other) 2
        | ")" => fail "syntax error: unexpected ')'" 2
        | "+" => take
        | "length" =>
          if hasMore then return toString (← primary limit).length
          else fail "syntax error: missing argument after 'length'" 2
        | "match" =>
          let text ← primary limit
          fit text (← primary limit)
        | "index" =>
          let text ← primary limit
          return placeOf text (← primary limit)
        | "substr" =>
          let text ← primary limit
          let start ← primary limit
          return partOf text start (← primary limit)
        | word => return word
    let matched := level [":"] (fun _ a b => fit a b) (primary (depth + 1))
    let product := level ["*", "/", "%"] (fun op a b => do
      let x ← number a
      let y ← number b
      if op = "*" then return toString (x * y)
      if y = 0 then fail "division by zero" 2
      return toString (if op = "/" then x.tdiv y else x.tmod y)) matched
    let sum := level ["+", "-"] (fun op a b => do
      let x ← number a
      let y ← number b
      return toString (if op = "+" then x + y else x - y)) product
    let compared := level ["<", "<=", "=", "==", "!=", ">=", ">"] (fun op a b => do
      let order : Ordering :=
        match integerText? a, integerText? b with
        | some x, some y => compare x y
        | _, _ => compareChars a.toList b.toList
      let holds : Bool :=
        match op with
        | "<" => order = .lt
        | "<=" => order ≠ .gt
        | "!=" => order ≠ .eq
        | ">=" => order ≠ .lt
        | ">" => order = .gt
        | _ => order = .eq
      return if holds then "1" else "0") sum
    let conjunction := level ["&"] (fun _ a b => do
      return if isNothing a || isNothing b then "0" else a) compared
    level ["|"] (fun _ a b => do
      return if !isNothing a then a else if isNothing b then "0" else b) conjunction

end Calculation

/-- Prints the value of an expression. The status says whether it counts as nothing. -/
def printValue (arguments : List String) : Program Unit := do
  let words :=
    match arguments with
    | "--" :: rest => rest
    | words => words
  if words.isEmpty then Program.refuseUsage 2 "missing operand"
  match (Calculation.whole (words.length + 1)).run (words, "") with
  | .error (status, wording) =>
    Program.complain wording
    Program.finish status
  | .ok (value, rest, _) =>
    match rest with
    | extra :: _ =>
      Program.complain ("syntax error: unexpected argument " ++ shownPath extra)
      Program.finish 2
    | [] =>
      Program.printText (value ++ "\n")
      Program.setStatus (if isNothing value then 1 else 0)

end FlashImage.Shell
