import FlashImage.Shell.Utility.Content

/-!
The program that sorts lines.

Lines are compared by keys, and by the whole line where the keys say nothing. Among lines whose keys
are equal, one may be asked for.
-/

set_option autoImplicit false
set_option relaxedAutoImplicit false

namespace FlashImage.Shell

/-- How texts are compared. -/
structure SortStyle where
  numeric : Bool
  reversed : Bool
  foldsCase : Bool
  skipsBlanks : Bool
  dictionary : Bool
  human : Bool
  version : Bool
  deriving DecidableEq, Repr

def SortStyle.ofLetters (letters : List Char) : SortStyle :=
  let has (c : Char) : Bool := letters.contains c
  ⟨has 'n' || has 'g', has 'r', has 'f', has 'b', has 'd', has 'h', has 'V'⟩

/-- Where a key starts or ends: a field, and a character of it. -/
structure KeyPosition where
  field : Nat
  char : Nat
  skipsBlanks : Bool

/-- A part of a line that lines are compared by. -/
structure SortKey where
  start : KeyPosition
  stop : Option KeyPosition
  style : SortStyle

/-- A number with decimals: its sign, and its digits before and behind the point. -/
structure DecimalNumber where
  isNegative : Bool
  whole : List Char
  fraction : List Char

def DecimalNumber.read (s : List Char) : DecimalNumber :=
  let s := s.dropWhile fun c => c = ' ' || c = '\t'
  let (isNegative, s) :=
    match s with
    | '-' :: s => (true, s)
    | s => (false, s)
  let whole := s.takeWhile Char.isDigit
  let fraction :=
    match s.drop whole.length with
    | '.' :: rest => rest.takeWhile Char.isDigit
    | _ => []
  ⟨isNegative, whole.dropWhile (· = '0'), (fraction.reverse.dropWhile (· = '0')).reverse⟩

def compareChars : List Char → List Char → Ordering
  | [], [] => .eq
  | [], _ => .lt
  | _, [] => .gt
  | a :: s, b :: t => if a = b then compareChars s t else compare a.toNat b.toNat

def DecimalNumber.compare (a b : DecimalNumber) : Ordering :=
  let isZero (n : DecimalNumber) : Bool := n.whole.isEmpty && n.fraction.isEmpty
  let size : Ordering :=
    (Ord.compare a.whole.length b.whole.length).then
      ((compareChars a.whole b.whole).then (compareChars a.fraction b.fraction))
  if isZero a && isZero b then .eq
  else
    match a.isNegative && !isZero a, b.isNegative && !isZero b with
    | true, false => .lt
    | false, true => .gt
    | true, true => size.swap
    | false, false => size

def sizeWeight (s : List Char) : Nat :=
  let s := s.dropWhile fun c => c = ' ' || c = '\t' || c = '-'
  let rest := s.dropWhile fun c => c.isDigit || c = '.'
  match rest.head? with
  | some 'k' => 1
  | some c => match "KMGTPEZY".toList.idxOf? c with
    | some i => i + 1
    | none => 0
  | none => 0

/-- The order of two versions: of their numbers by value, and of the texts between these. -/
def compareVersions : (limit : Nat) → List Char → List Char → Ordering
  | 0, _, _ => .eq
  | _, [], [] => .eq
  | limit + 1, a, b =>
    let text (s : List Char) : List Char := s.takeWhile (!·.isDigit)
    let rest (s : List Char) : List Char := s.dropWhile (!·.isDigit)
    let number (s : List Char) : List Char := ((rest s).takeWhile Char.isDigit).dropWhile (· = '0')
    let behind (s : List Char) : List Char := (rest s).dropWhile Char.isDigit
    (compareChars (text a) (text b)).then
      ((compare (number a).length (number b).length).then
        ((compareChars (number a) (number b)).then
          (compareVersions limit (behind a) (behind b))))

def SortStyle.compare (style : SortStyle) (a b : List Char) : Ordering :=
  let isBlank (c : Char) : Bool := c = ' ' || c = '\t'
  let prepared (s : List Char) : List Char :=
    let s := if style.skipsBlanks then s.dropWhile isBlank else s
    let s := if style.dictionary then s.filter fun c => c.isAlphanum || isBlank c else s
    if style.foldsCase then s.map Char.toUpper else s
  let order :=
    if style.human then
      let sign (s : List Char) : Int :=
        let n := DecimalNumber.read s
        let weight : Int := sizeWeight s + 1
        if n.whole.isEmpty && n.fraction.isEmpty then 0
        else if n.isNegative then -weight else weight
      (Ord.compare (sign a) (sign b)).then ((DecimalNumber.read a).compare (DecimalNumber.read b))
    else if style.numeric then (DecimalNumber.read a).compare (DecimalNumber.read b)
    else if style.version then compareVersions (a.length + b.length + 2) (prepared a) (prepared b)
    else compareChars (prepared a) (prepared b)
  if style.reversed then order.swap else order

/-- The fields of a line, each with the blanks in front of it or split at a separator. -/
def fieldsOf (separator : Option Char) (line : List Char) : List (List Char) :=
  match separator with
  | some c => splitAt c line
  | none => blankFields (line.length + 1) line
where
  splitAt (c : Char) : List Char → List (List Char)
    | [] => [[]]
    | x :: rest =>
      match splitAt c rest with
      | [] => [[x]]
      | part :: parts => if x = c then [] :: part :: parts else (x :: part) :: parts
  blankFields : Nat → List Char → List (List Char)
    | 0, _ => []
    | _, [] => []
    | limit + 1, s =>
      let isBlank (c : Char) : Bool := c = ' ' || c = '\t'
      let blanks := s.takeWhile isBlank
      let text := (s.drop blanks.length).takeWhile (!isBlank ·)
      let field := blanks ++ text
      field :: blankFields limit (s.drop field.length)

def KeyPosition.offset (separator : Option Char) (line : List Char) (p : KeyPosition)
    (isEnd : Bool) : Nat :=
  let fields := fieldsOf separator line
  let joint := if separator.isSome then 1 else 0
  let before := (fields.take (p.field - 1)).foldl (fun n f => n + f.length + joint) 0
  match fields[p.field - 1]? with
  | none => line.length
  | some field =>
    if isEnd && p.char = 0 then before + field.length
    else
      let isBlank (c : Char) : Bool := c = ' ' || c = '\t'
      let blanks := if p.skipsBlanks then (field.takeWhile isBlank).length else 0
      let count := if isEnd then p.char else p.char - 1
      let offset := before + blanks + count
      if isEnd then min offset line.length else min offset line.length

def SortKey.part (separator : Option Char) (line : List Char) (k : SortKey) : List Char :=
  let start := k.start.offset separator line false
  let stop :=
    match k.stop with
    | some p => p.offset separator line true
    | none => line.length
  (line.take stop).drop start

/-- Reads a position of a key. The result has the letters behind it. -/
def readPosition (shown : String) (isEnd : Bool) (s : List Char) :
    Except String (KeyPosition × List Char) := do
  let place := if isEnd then "after ','" else "at field start"
  let digits := s.takeWhile Char.isDigit
  let rest := s.drop digits.length
  let field ← match decimal? (String.ofList digits) with
    | some 0 =>
      throw ("field number is zero: invalid field specification " ++ shownPath shown)
    | some n => pure n
    | none =>
      throw ("invalid number " ++ place ++ ": invalid count at start of " ++
        shownPath (String.ofList s))
  match rest with
  | '.' :: rest =>
    let digits := rest.takeWhile Char.isDigit
    match decimal? (String.ofList digits), isEnd with
    | some 0, false =>
      throw ("character offset is zero: invalid field specification " ++ shownPath shown)
    | some n, _ => return (⟨field, n, false⟩, rest.drop digits.length)
    | none, _ =>
      throw ("invalid number after '.': invalid count at start of " ++
        shownPath (String.ofList rest))
  | rest => return (⟨field, if isEnd then 0 else 1, false⟩, rest)

def readKey (style : SortStyle) (text : String) : Except String SortKey := do
  let known (c : Char) : Bool := "bdfgiMhnRrV".toList.contains c
  let stray (c : List Char) : Except String Unit :=
    if c.isEmpty then .ok ()
    else .error ("stray character in field spec: invalid field specification " ++ shownPath text)
  let (start, rest) ← readPosition text false text.toList
  let letters := rest.takeWhile known
  match rest.drop letters.length with
  | ',' :: rest =>
    let (stop, rest) ← readPosition text true rest
    let more := rest.takeWhile known
    stray (rest.drop more.length)
    let all := letters ++ more
    let own := if all.isEmpty then style else SortStyle.ofLetters all
    return ⟨{ start with skipsBlanks := letters.contains 'b' || (all.isEmpty && style.skipsBlanks) },
      some { stop with skipsBlanks := more.contains 'b' || (all.isEmpty && style.skipsBlanks) },
      { own with skipsBlanks := false }⟩
  | rest =>
    stray rest
    let own := if letters.isEmpty then style else SortStyle.ofLetters letters
    return ⟨{ start with skipsBlanks := own.skipsBlanks }, none, { own with skipsBlanks := false }⟩

/-- How lines are sorted. -/
structure SortRule where
  separator : Option Char
  keys : List SortKey
  style : SortStyle
  /-- Whether lines whose keys are equal stay in their order. -/
  stable : Bool
  unique : Bool

def SortRule.compareKeys (r : SortRule) (a b : String) : Ordering :=
  if r.keys.isEmpty then r.style.compare a.toList b.toList
  else
    r.keys.foldl (fun o k =>
      o.then (k.style.compare (k.part r.separator a.toList) (k.part r.separator b.toList))) .eq

def SortRule.compare (r : SortRule) (a b : String) : Ordering :=
  let last := compareChars a.toList b.toList
  let last := if r.style.reversed then last.swap else last
  (r.compareKeys a b).then (if r.stable || r.unique then .eq else last)

/-- Sorts lines. Of lines with equal keys only the first is kept if only one is asked for. -/
def SortRule.sort (r : SortRule) (lines : List String) : List String :=
  let sorted := lines.mergeSort fun a b => r.compare a b != .gt
  if r.unique then unique sorted else sorted
where
  unique : List String → List String
    | [] => []
    | line :: rest => line :: go line rest
  go (last : String) : List String → List String
    | [] => []
    | line :: rest => if r.compareKeys last line = .eq then go last rest else line :: go line rest

def SortRule.disorder? (r : SortRule) : (number : Nat) → List String → Option (Nat × String)
  | n, a :: b :: rest =>
    let order := r.compare a b
    if order = .gt || (r.unique && r.compareKeys a b = .eq) then some (n + 1, b)
    else r.disorder? (n + 1) (b :: rest)
  | _, _ => none

def sortOptions : List OptionSpec :=
  flags "bcCdfghiMmnRrsuVz" ++ settings "kotST" ++ [⟨'r', "reverse", false⟩,
    ⟨'n', "numeric-sort", false⟩, ⟨'u', "unique", false⟩, ⟨'k', "key", true⟩,
    ⟨'t', "field-separator", true⟩, ⟨'o', "output", true⟩, ⟨'s', "stable", false⟩,
    ⟨'f', "ignore-case", false⟩, ⟨'b', "ignore-leading-blanks", false⟩, ⟨'m', "merge", false⟩,
    ⟨'d', "dictionary-order", false⟩, ⟨'h', "human-numeric-sort", false⟩,
    ⟨'V', "version-sort", false⟩, ⟨'c', "check", false⟩]

def sortRule (g : Given) : Except String SortRule := do
  let style := SortStyle.ofLetters (g.options.map (·.1))
  let keys ← (g.options.filter (·.1 = 'k')).mapM fun (_, text) => readKey style text
  let separator ← match (g.value? 't').map String.toList with
    | none => pure none
    | some [] => throw "empty tab"
    | some [c] => pure (some c)
    | some ['\\', '0'] => pure (some '\x00')
    | some s => throw ("multi-character tab " ++ shownPath (String.ofList s))
  return ⟨separator, keys, style, g.has 's', g.has 'u'⟩

def sortFailure : Nat := 2

def sortFiles (arguments : List String) : Program Unit := do
  let g ← readGiven sortOptions sortFailure false (arguments.length + 1) arguments
  let refuse {α : Type} (wording : String) : Program α := do
    Program.complain wording
    Program.finish sortFailure
  match sortRule g with
  | .error wording => refuse wording
  | .ok rule =>
    let paths := if g.operands.isEmpty then ["-"] else g.operands
    let contents ← paths.mapM fun path => do
      match ← readOperand? path with
      | .ok b => return b
      | .error .isDirectory => refuse ("read failed: " ++ path ++ ": Is a directory")
      | .error fault => refuse ("cannot read: " ++ path ++ ": " ++ faultWording fault)
    let lines := contents.flatMap textLines
    if g.has 'c' || g.has 'C' then
      match rule.disorder? 1 lines with
      | none => return ()
      | some (n, line) =>
        if g.has 'c' then
          Program.complain (paths.headD "-" ++ ":" ++ toString n ++ ": disorder: " ++ line)
        Program.finish 1
    let sorted := String.join ((rule.sort lines).map (· ++ "\n"))
    match g.value? 'o' with
    | none => Program.printText sorted
    | some path =>
      match ← Program.writePath path .write (ByteText.toBytes sorted) with
      | .ok () => return ()
      | .error fault => refuse ("open failed: " ++ path ++ ": " ++ faultWording fault)

end FlashImage.Shell
