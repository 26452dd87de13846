import FlashImage.Shell.Utility.Basic

/-!
The program that replaces, deletes and squeezes bytes.

A set of bytes is written as single characters, ranges, classes and repetitions. The second set is
made as long as the first one by its last byte.
-/

set_option autoImplicit false
set_option relaxedAutoImplicit false

namespace FlashImage.Shell

def classBytes? (name : String) : Option (List Nat) :=
  let bytes (p : Nat → Bool) : Option (List Nat) := some ((List.range 256).filter p)
  let upper (n : Nat) : Bool := 65 ≤ n && n ≤ 90
  let lower (n : Nat) : Bool := 97 ≤ n && n ≤ 122
  let digit (n : Nat) : Bool := 48 ≤ n && n ≤ 57
  let graph (n : Nat) : Bool := 33 ≤ n && n ≤ 126
  let alnum (n : Nat) : Bool := upper n || lower n || digit n
  match name with
  | "alnum" => bytes alnum
  | "alpha" => bytes fun n => upper n || lower n
  | "blank" => bytes fun n => n = 9 || n = 32
  | "cntrl" => bytes fun n => n < 32 || n = 127
  | "digit" => bytes digit
  | "graph" => bytes graph
  | "lower" => bytes lower
  | "print" => bytes fun n => graph n || n = 32
  | "punct" => bytes fun n => graph n && !alnum n
  | "space" => bytes fun n => n = 32 || (9 ≤ n && n ≤ 13)
  | "upper" => bytes upper
  | "xdigit" => bytes fun n => digit n || (65 ≤ n && n ≤ 70) || (97 ≤ n && n ≤ 102)
  | _ => none

/-- A part of a set of bytes. -/
inductive TableSet
  | bytes (ns : List Nat)
  | letters (isUpper : Bool)
  | ofClass (ns : List Nat)
  /-- One byte so many times, or as often as there is room for it. -/
  | repeated (n count : Nat)
  deriving DecidableEq, Repr

/-- A character of a set, which a backslash has taken its meaning from or not. -/
structure SetChar where
  code : Nat
  escaped : Bool

def setChars : List Char → List SetChar
  | [] => []
  | '\\' :: c :: rest => escape c rest
  | c :: rest => ⟨c.toNat, false⟩ :: setChars rest
where
  escape (c : Char) (rest : List Char) : List SetChar :=
    let isOctal (c : Char) : Bool := '0' ≤ c && c ≤ '7'
    let value (c : Char) : Nat := c.toNat - '0'.toNat
    if isOctal c then
      match rest with
      | d :: e :: behind =>
        if isOctal d then
          if isOctal e && value c * 64 + value d * 8 + value e < 256 then
            ⟨value c * 64 + value d * 8 + value e, true⟩ :: setChars behind
          else ⟨value c * 8 + value d, true⟩ :: setChars (e :: behind)
        else ⟨value c, true⟩ :: setChars (d :: e :: behind)
      | [d] =>
        if isOctal d then [⟨value c * 8 + value d, true⟩]
        else ⟨value c, true⟩ :: setChars [d]
      | [] => [⟨value c, true⟩]
    else
      let code :=
        match c with
        | 'a' => 7
        | 'b' => 8
        | 'f' => 12
        | 'n' => 10
        | 'r' => 13
        | 't' => 9
        | 'v' => 11
        | c => c.toNat
      ⟨code, true⟩ :: setChars rest

/-- Whether a character stands for itself, without a backslash in front. -/
def SetChar.is (s : SetChar) (c : Char) : Bool := !s.escaped && s.code = c.toNat

def setText (s : List SetChar) : String := String.ofList (s.map fun c => Char.ofNat c.code)

/-- The number of repetitions that some characters say, in base 8 with a zero in front. -/
def repeatCount? (s : List SetChar) : Option Nat :=
  let digits := setText s
  match decimal? digits with
  | none => if s.isEmpty then some 0 else none
  | some n =>
    if digits.startsWith "0" then
      some (digits.toList.foldl (fun n d => n * 8 + (d.toNat - '0'.toNat)) 0)
    else some n

def splitClass (sign : Char) (s : List SetChar) : Option (List SetChar × List SetChar) :=
  go [] s
where
  go (before : List SetChar) : List SetChar → Option (List SetChar × List SetChar)
    | a :: b :: rest =>
      if a.is sign && b.is ']' then some (before.reverse, rest) else go (a :: before) (b :: rest)
    | _ => none

def readTableSets : (limit : Nat) → List SetChar → Except String (List TableSet)
  | 0, _ => .ok []
  | _, [] => .ok []
  | limit + 1, a :: rest =>
    match a.is '[', rest with
    | true, b :: behind =>
      if b.is ':' then
        match splitClass ':' behind with
        | some (name, others) => do
          let part ← match setText name with
            | "upper" => .ok (.letters true)
            | "lower" => .ok (.letters false)
            | name =>
              match classBytes? name with
              | some ns => .ok (.ofClass ns)
              | none => .error ("invalid character class " ++ shownPath name)
          return part :: (← readTableSets limit others)
        | none => single limit a rest
      else if b.is '=' then
        match splitClass '=' behind with
        | some ([c], others) => do return .bytes [c.code] :: (← readTableSets limit others)
        | _ => single limit a rest
      else
        match behind with
        | star :: more =>
          let count := more.takeWhile (!·.is ']')
          match star.is '*', repeatCount? count, more.drop count.length with
          | true, some n, _ :: others => do
            return .repeated b.code n :: (← readTableSets limit others)
          | _, _, _ => single limit a rest
        | [] => single limit a rest
    | _, _ => single limit a rest
where
  single (limit : Nat) (a : SetChar) (rest : List SetChar) : Except String (List TableSet) := do
    match rest with
    | dash :: b :: behind =>
      if dash.is '-' then
        if b.code < a.code then
          let shown := setText [a] ++ "-" ++ setText [b]
          throw ("range-endpoints of " ++ shownPath shown ++
            " are in reverse collating sequence order")
        let ns := (List.range (b.code + 1 - a.code)).map (a.code + ·)
        return .bytes ns :: (← readTableSets limit behind)
      else return .bytes [a.code] :: (← readTableSets limit rest)
    | rest => return .bytes [a.code] :: (← readTableSets limit rest)

/-- The bytes of a part of a set, where what fills the room is repeated so often. -/
def TableSet.codes (room : Nat) : TableSet → List Nat
  | .bytes ns => ns
  | .letters true => (List.range 26).map (65 + ·)
  | .letters false => (List.range 26).map (97 + ·)
  | .ofClass ns => ns
  | .repeated n 0 => List.replicate room n
  | .repeated n count => List.replicate count n

def setCodes (room : Nat) (parts : List TableSet) : List Nat := parts.flatMap (TableSet.codes room)

/-- How bytes are translated. -/
structure Translation where
  /-- The bytes that are deleted. -/
  deletes : Nat → Bool
  /-- What bytes become. -/
  becomes : Nat → Nat
  /-- The bytes that are kept once if they follow one another. -/
  squeezes : Nat → Bool

def Translation.apply (t : Translation) (b : Bytes) : Bytes :=
  go none b
where
  go (last : Option Nat) : Bytes → Bytes
    | [] => []
    | x :: rest =>
      if t.deletes x.toNat then go last rest
      else
        let n := t.becomes x.toNat
        if last = some n && t.squeezes n then go last rest
        else UInt8.ofNat n :: go (some n) rest

/-- What is refused when letters of one kind are to become letters of the other. -/
def checkLetters (first second : List TableSet) : Except String Unit := do
  let isOther : TableSet → Bool
    | .ofClass _ => true
    | _ => false
  let positions (parts : List TableSet) : List Nat :=
    let step (s : Nat × List Nat) (p : TableSet) : Nat × List Nat :=
      (s.1 + (p.codes 0).length, match p with
        | .letters _ => s.1 :: s.2
        | _ => s.2)
    (parts.foldl step (0, [])).2
  if second.any isOther then
    throw ("when translating, the only character classes that may appear in\n" ++
      "string2 are 'upper' and 'lower'")
  if (positions second).any (!(positions first).contains ·) then
    throw "misaligned [:upper:] and/or [:lower:] construct"

def translationOf (g : Given) (first second : List TableSet) : Except String Translation := do
  let complement := g.has 'c' || g.has 'C'
  let listed := setCodes 0 first
  let from1 := if complement then (List.range 256).filter (!listed.contains ·) else listed
  let fixed := (setCodes 0 second).length
  let room := from1.length - fixed
  let to1 := setCodes room second
  let member (ns : List Nat) : Nat → Bool :=
    let table := (Array.replicate 256 false)
    let table := ns.foldl (fun t n => t.set! n true) table
    fun n => table.getD n false
  let squeezed := g.has 's'
  if g.has 'd' then
    return ⟨member from1, id, if squeezed then member to1 else fun _ => false⟩
  else if second.isEmpty && squeezed && g.operands.length = 1 then
    return ⟨fun _ => false, id, member from1⟩
  else
    if !g.has 't' && to1.isEmpty && !from1.isEmpty then
      throw "when not truncating set1, string2 must be non-empty"
    checkLetters first second
    let from1 := if g.has 't' then from1.take to1.length else from1
    let last := to1.getLastD 0
    let table := (Array.range 256)
    let pairs := from1.zipIdx.map fun (n, i) => (n, to1.getD i last)
    let table := pairs.foldl (fun t (n, m) => t.set! n m) table
    return ⟨fun _ => false, fun n => table.getD n 0,
      if squeezed then member to1 else fun _ => false⟩

def translateInput (arguments : List String) : Program Unit := do
  let g ← givenStrictlyTo (flags "cCdst" ++ [⟨'c', "complement", false⟩, ⟨'d', "delete", false⟩,
    ⟨'s', "squeeze-repeats", false⟩, ⟨'t', "truncate-set1", false⟩]) arguments
  let deletes := g.has 'd'
  let squeezes := g.has 's'
  let most := if deletes && !squeezes then 1 else 2
  match g.operands with
  | [] => Program.refuseUsage 1 "missing operand"
  | [one] =>
    let hint :=
      if deletes && squeezes then
        some "\nTwo strings must be given when both deleting and squeezing repeats."
      else if deletes || squeezes then none
      else some "\nTwo strings must be given when translating."
    match hint with
    | some hint => Program.refuseUsage 1 ("missing operand after " ++ shownPath one ++ hint)
    | none => pure ()
  | operands =>
    match operands.drop most with
    | extra :: _ =>
      let hint :=
        if most = 1 then
          "\nOnly one string may be given when deleting without squeezing repeats."
        else ""
      Program.refuseUsage 1 ("extra operand " ++ shownPath extra ++ hint)
    | [] => pure ()
  let read (s : String) : Except String (List TableSet) :=
    let chars := setChars s.toList
    readTableSets (chars.length + 1) chars
  let translation := do
    let first ← read (g.operands.headD "")
    let second ← read ((g.operands.drop 1).headD "")
    translationOf g first second
  match translation with
  | .error wording => Program.refuse wording
  | .ok t =>
    if (← Program.inputEndpoint) = some .directory then
      Program.refuse "read error: Is a directory"
    Program.print (t.apply (← Program.takeInput))

end FlashImage.Shell
