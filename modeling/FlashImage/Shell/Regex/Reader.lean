import FlashImage.Shell.Regex.Basic

/-!
How regular expressions are written.

There are two ways: in the plain one the signs for groups, counts and choices have a backslash, and
in the extended one they have none. Both are first split into the same signs.
-/

set_option autoImplicit false
set_option relaxedAutoImplicit false

namespace FlashImage.Shell

/-- A sign of a regular expression. -/
inductive RegexSign
  | atom (r : Regex)
  | opening
  | closing
  | bar
  | count (least : Nat) (most : Option Nat)
  deriving Repr

namespace Regex

def ofChar (c : Char) : Regex := .one ⟨false, [(c, c)]⟩

def classRanges? (name : String) : Option (List (Char × Char)) :=
  let lower := ('a', 'z')
  let upper := ('A', 'Z')
  let digit := ('0', '9')
  match name with
  | "alnum" => some [lower, upper, digit]
  | "alpha" => some [lower, upper]
  | "blank" => some [(' ', ' '), ('\t', '\t')]
  | "cntrl" => some [('\x00', '\x1f'), ('\x7f', '\x7f')]
  | "digit" => some [digit]
  | "graph" => some [('!', '~')]
  | "lower" => some [lower]
  | "print" => some [(' ', '~')]
  | "punct" => some [('!', '/'), (':', '@'), ('[', '\x60'), ('\x7b', '~')]
  | "space" => some [(' ', ' '), ('\t', '\x0d')]
  | "upper" => some [upper]
  | "xdigit" => some [digit, ('a', 'f'), ('A', 'F')]
  | _ => none

def splitAtPair (a b : Char) : List Char → Option (List Char × List Char)
  | x :: y :: rest =>
    if x = a ∧ y = b then some ([], rest)
    else (splitAtPair a b (y :: rest)).map fun (s, t) => (x :: s, t)
  | _ => none

def openSet : String := "Unmatched [, [^, [:, [., or [="

def readRanges (isFirst : Bool) : (limit : Nat) → List Char →
    Except String (List (Char × Char) × List Char)
  | 0, _ => .error openSet
  | _, [] => .error openSet
  | limit + 1, c :: rest => do
    if c = ']' ∧ !isFirst then return ([], rest)
    else
      match c, rest with
      | '[', ':' :: behind =>
        match splitAtPair ':' ']' behind with
        | none => throw openSet
        | some (name, behind) =>
          match classRanges? (String.ofList name) with
          | none => throw "Invalid character class name"
          | some ranges =>
            let (others, rest) ← readRanges false limit behind
            return (ranges ++ others, rest)
      | '[', '=' :: x :: '=' :: ']' :: behind =>
        let (others, rest) ← readRanges false limit behind
        return ((x, x) :: others, rest)
      | '[', '.' :: x :: '.' :: ']' :: behind =>
        let (others, rest) ← readRanges false limit behind
        return ((x, x) :: others, rest)
      | c, '-' :: d :: behind =>
        if d = ']' then
          let (others, rest) ← readRanges false limit rest
          return ((c, c) :: others, rest)
        else
          if d < c then throw "Invalid range end"
          let (others, rest) ← readRanges false limit behind
          return ((c, d) :: others, rest)
      | c, rest =>
        let (others, rest) ← readRanges false limit rest
        return ((c, c) :: others, rest)

def readSetSign (s : List Char) : Except String (Regex × List Char) := do
  let (negated, s) :=
    match s with
    | '^' :: s => (true, s)
    | s => (false, s)
  let (ranges, rest) ← readRanges true (s.length + 1) s
  return (.one ⟨negated, ranges⟩, rest)

def readCountSign? (closing : List Char) (s : List Char) :
    Option ((Nat × Option Nat) × List Char) :=
  let number (digits : List Char) : Nat :=
    digits.foldl (fun n d => n * 10 + (d.toNat - '0'.toNat)) 0
  let first := s.takeWhile Char.isDigit
  let rest := s.drop first.length
  let close (value : Nat × Option Nat) (s : List Char) :
      Option ((Nat × Option Nat) × List Char) :=
    if closing.isPrefixOf s then some (value, s.drop closing.length) else none
  match rest with
  | ',' :: rest =>
    let second := rest.takeWhile Char.isDigit
    let behind := rest.drop second.length
    close (number first, if second.isEmpty then none else some (number second)) behind
  | rest => if first.isEmpty then none else close (number first, some (number first)) rest

/-- What a letter behind a backslash stands for in both ways of writing. -/
def escaped? (c : Char) : Option Regex :=
  let word := [('a', 'z'), ('A', 'Z'), ('0', '9'), ('_', '_')]
  let space := [(' ', ' '), ('\t', '\x0d')]
  match c with
  | '<' => some .wordStart
  | '>' => some .wordEnd
  | 'b' => some (.edge true)
  | 'B' => some (.edge false)
  | 'w' => some (.one ⟨false, word⟩)
  | 'W' => some (.one ⟨true, word⟩)
  | 's' => some (.one ⟨false, space⟩)
  | 'S' => some (.one ⟨true, space⟩)
  | '\x60' => some .lineStart
  | '\'' => some .lineEnd
  | 'n' => some (ofChar '\n')
  | 't' => some (ofChar '\t')
  | c => if '1' ≤ c && c ≤ '9' then some (.again (c.toNat - '0'.toNat)) else none

/-- Whether an expression starts at what follows a sign, if there is one. -/
def startsBehind : Option RegexSign → Bool
  | none => true
  | some .opening => true
  | some .bar => true
  | _ => false

def plainSigns (last : Option RegexSign) : (limit : Nat) → List Char →
    Except String (List RegexSign)
  | 0, _ => .ok []
  | _, [] => .ok []
  | limit + 1, c :: rest => do
    let go (sign : RegexSign) (rest : List Char) : Except String (List RegexSign) := do
      return sign :: (← plainSigns (some sign) limit rest)
    let anyChar : Regex := .one ⟨true, []⟩
    let closes (s : List Char) : Bool :=
      s.isEmpty || "\\)".toList.isPrefixOf s || "\\|".toList.isPrefixOf s
    match c, rest with
    | '\\', [] => throw "Trailing backslash"
    | '\\', '(' :: rest => go .opening rest
    | '\\', ')' :: rest => go .closing rest
    | '\\', '|' :: rest => go .bar rest
    | '\\', '+' :: rest => go (.count 1 none) rest
    | '\\', '?' :: rest => go (.count 0 (some 1)) rest
    | '\\', '\x7b' :: rest =>
      if startsBehind last then throw "Invalid preceding regular expression"
      match readCountSign? ['\\', '\x7d'] rest with
      | some ((least, most), rest) =>
        if most.any (· < least) then throw "Invalid content of \\\x7b\\\x7d"
        go (.count least most) rest
      | none => throw "Unmatched \\\x7b"
    | '\\', c :: rest => go (.atom ((escaped? c).getD (ofChar c))) rest
    | '[', rest =>
      let (r, rest) ← readSetSign rest
      go (.atom r) rest
    | '.', rest => go (.atom anyChar) rest
    | '*', rest =>
      match last with
      | some (.atom .lineStart) => go (.atom (ofChar '*')) rest
      | last => if startsBehind last then go (.atom (ofChar '*')) rest else go (.count 0 none) rest
    | '^', rest => go (.atom (if startsBehind last then .lineStart else ofChar '^')) rest
    | '$', rest => go (.atom (if closes rest then .lineEnd else ofChar '$')) rest
    | c, rest => go (.atom (ofChar c)) rest

/-- The signs of an expression that is written in the extended way. -/
def extendedSigns (last : Option RegexSign) : (limit : Nat) → List Char →
    Except String (List RegexSign)
  | 0, _ => .ok []
  | _, [] => .ok []
  | limit + 1, c :: rest => do
    let go (sign : RegexSign) (rest : List Char) : Except String (List RegexSign) := do
      return sign :: (← extendedSigns (some sign) limit rest)
    let counted (sign : RegexSign) (rest : List Char) : Except String (List RegexSign) :=
      if startsBehind last then extendedSigns last limit rest else go sign rest
    match c, rest with
    | '\\', [] => throw "Trailing backslash"
    | '\\', c :: rest => go (.atom ((escaped? c).getD (ofChar c))) rest
    | '(', rest => go .opening rest
    | ')', rest => go .closing rest
    | '|', rest => go .bar rest
    | '*', rest => counted (.count 0 none) rest
    | '+', rest => counted (.count 1 none) rest
    | '?', rest => counted (.count 0 (some 1)) rest
    | '\x7b', rest =>
      match readCountSign? ['\x7d'] rest with
      | some ((least, most), rest) =>
        if most.any (· < least) then throw "Invalid content of \\\x7b\\\x7d"
        counted (.count least most) rest
      | none => go (.atom (ofChar '\x7b')) rest
    | '[', rest =>
      let (r, rest) ← readSetSign rest
      go (.atom r) rest
    | '.', rest => go (.atom (.one ⟨true, []⟩)) rest
    | '^', rest => go (.atom .lineStart) rest
    | '$', rest => go (.atom .lineEnd) rest
    | c, rest => go (.atom (ofChar c)) rest

/-- What is left of the signs of an expression, and the number of groups so far. -/
structure SignState where
  rest : List RegexSign
  groups : Nat

def readCounts : (limit : Nat) → Regex → SignState → Regex × SignState
  | 0, r, s => (r, s)
  | limit + 1, r, s =>
    match s.rest with
    | .count least most :: rest => readCounts limit (.repeated r least most) { s with rest := rest }
    | _ => (r, s)

def readChoices (openGroup : String) : (depth : Nat) → SignState →
    Except String (Regex × SignState)
  | 0, _ => .error openGroup
  | depth + 1, s => do
    let atom (s : SignState) : Except String (Option (Regex × SignState)) := do
      match s.rest with
      | .atom r :: rest => return some (r, { s with rest := rest })
      | .opening :: rest =>
        let n := s.groups + 1
        let (r, s) ← readChoices openGroup depth ⟨rest, n⟩
        match s.rest with
        | .closing :: rest => return some (.group n r, { s with rest := rest })
        | _ => throw openGroup
      | .count _ _ :: rest => return some (.empty, { s with rest := rest })
      | _ => return none
    let rec branch (limit : Nat) (before : Regex) (s : SignState) :
        Except String (Regex × SignState) := do
      match limit with
      | 0 => return (before, s)
      | limit + 1 =>
        match ← atom s with
        | none => return (before, s)
        | some (r, s) =>
          let (r, s) := readCounts s.rest.length r s
          branch limit (match before with
            | .empty => r
            | before => .both before r) s
    let rec choices (limit : Nat) (s : SignState) : Except String (Regex × SignState) := do
      let (r, s) ← branch (s.rest.length + 1) .empty s
      match limit, s.rest with
      | limit + 1, .bar :: rest =>
        let (other, s) ← choices limit { s with rest := rest }
        return (.either r other, s)
      | _, _ => return (r, s)
    choices (s.rest.length + 1) s

def refersWithin (groups : Nat) : Regex → Bool
  | .again n => n ≤ groups
  | .group _ r => refersWithin groups r
  | .both a b => refersWithin groups a && refersWithin groups b
  | .either a b => refersWithin groups a && refersWithin groups b
  | .repeated r _ _ => refersWithin groups r
  | _ => true

/-- Signs in which a closing bracket without an opening one stands for itself. -/
def withStrays : (depth : Nat) → List RegexSign → List RegexSign
  | _, [] => []
  | depth, .opening :: rest => .opening :: withStrays (depth + 1) rest
  | 0, .closing :: rest => .atom (ofChar ')') :: withStrays 0 rest
  | depth + 1, .closing :: rest => .closing :: withStrays depth rest
  | depth, sign :: rest => sign :: withStrays depth rest

/-- Reads an expression. The result has the number of its groups. -/
def read (extended mayStray : Bool) (text : String) : Except String (Regex × Nat) := do
  let chars := text.toList
  let signs ←
    if extended then extendedSigns none (chars.length + 1) chars
    else plainSigns none (chars.length + 1) chars
  let signs := if mayStray then withStrays 0 signs else signs
  let (r, s) ← readChoices "Unmatched ( or \\(" (signs.length + 1) ⟨signs, 0⟩
  if !s.rest.isEmpty then throw "Unmatched ) or \\)"
  if !refersWithin s.groups r then throw "Invalid back reference"
  return (r, s.groups)

end Regex
end FlashImage.Shell
