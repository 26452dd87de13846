/-!
Patterns that fit texts: signs for any character, any text, and one character of a set.

A character of a pattern is active if it may be such a sign, and else stands for itself.
-/

set_option autoImplicit false
set_option relaxedAutoImplicit false

namespace FlashImage.Shell

/-- A character of a word that is a pattern. -/
structure PatternChar where
  char : Char
  active : Bool
  deriving DecidableEq, Repr

/-- A part of a set of characters. -/
inductive SetPart
  | range (first last : Char)
  | category (name : String)
  deriving DecidableEq, Repr

/-- What a part of a pattern fits. -/
inductive PatternPart
  | char (c : Char)
  | one
  | many
  | set (negated : Bool) (parts : List SetPart)
  deriving DecidableEq, Repr

def inCategory (c : Char) : (category : String) → Bool
  | "alpha" => c.isAlpha
  | "digit" => c.isDigit
  | "alnum" => c.isAlphanum
  | "upper" => c.isUpper
  | "lower" => c.isLower
  | "space" => c = ' ' || ('\t' ≤ c && c ≤ '\x0d')
  | "blank" => c = ' ' || c = '\t'
  | "punct" => '!' ≤ c && c ≤ '~' && !c.isAlphanum
  | "print" => ' ' ≤ c && c ≤ '~'
  | "graph" => '!' ≤ c && c ≤ '~'
  | "cntrl" => c < ' ' || c = '\x7f'
  | "xdigit" => c.isDigit || ('a' ≤ c && c ≤ 'f') || ('A' ≤ c && c ≤ 'F')
  | _ => false

def categories : List String :=
  ["alpha", "digit", "alnum", "upper", "lower", "space", "blank", "punct", "print", "graph",
    "cntrl", "xdigit"]

def SetPart.has (c : Char) : SetPart → Bool
  | .range first last => first ≤ c && c ≤ last
  | .category name => inCategory c name

/-- The category that is named at the start of a text behind a bracket and a colon. -/
def category? (s : List Char) : Option String :=
  categories.find? fun name => (name ++ ":]").toList.isPrefixOf s

def readSet (isFirst : Bool) : (limit : Nat) → List PatternChar →
    Option (List SetPart × List PatternChar)
  | 0, _ => none
  | _ + 1, [] => none
  | limit + 1, ⟨c, active⟩ :: rest =>
    if c = ']' && active && !isFirst then some ([], rest)
    else
      let named :=
        match c, active, rest with
        | '[', true, ⟨':', true⟩ :: behind => category? (behind.map (·.char))
        | _, _, _ => none
      match named with
      | some name => add (.category name) (readSet false limit (rest.drop (name.length + 3)))
      | none =>
        match rest with
        | ⟨'-', true⟩ :: last :: behind =>
          if last.char = ']' && last.active then add (.range c c) (readSet false limit rest)
          else add (.range c last.char) (readSet false limit behind)
        | rest => add (.range c c) (readSet false limit rest)
where
  add (part : SetPart) (r : Option (List SetPart × List PatternChar)) :
      Option (List SetPart × List PatternChar) :=
    r.map fun (parts, rest) => (part :: parts, rest)

/-- The parts of a pattern. A bracket that is not closed stands for itself. -/
def readPattern : (limit : Nat) → List PatternChar → List PatternPart
  | 0, _ => []
  | _ + 1, [] => []
  | limit + 1, ⟨c, active⟩ :: rest =>
    let single := PatternPart.char c :: readPattern limit rest
    match c, active with
    | '*', true => .many :: readPattern limit rest
    | '?', true => .one :: readPattern limit rest
    | '[', true =>
      let (negated, members) :=
        match rest with
        | ⟨'!', true⟩ :: members => (true, members)
        | members => (false, members)
      match readSet true (members.length + 1) members with
      | some (parts, rest) => .set negated parts :: readPattern limit rest
      | none => single
    | _, _ => single

abbrev Pattern := List PatternPart

def Pattern.ofChars (w : List PatternChar) : Pattern := readPattern (w.length + 1) w

def Pattern.fits : Pattern → List Char → Bool
  | [], s => s.isEmpty
  | .many :: p, s => (List.range (s.length + 1)).any fun n => Pattern.fits p (s.drop n)
  | .char d :: p, c :: s => c = d && Pattern.fits p s
  | .one :: p, _ :: s => Pattern.fits p s
  | .set negated parts :: p, c :: s => (parts.any (·.has c)) != negated && Pattern.fits p s
  | _ :: _, [] => false

/-- What is left of texts when a start that a pattern fits is taken away. It is one of the first
text, but a pattern that fits that whole takes the others with it if it is to take the most. -/
def Pattern.dropStart (p : Pattern) (longest : Bool) : List (List Char) → List (List Char)
  | [] => []
  | s :: rest =>
    let sizes := List.range (s.length + 1)
    let sizes := if longest then sizes.reverse else sizes
    if longest && p.fits s then [[]]
    else s.drop ((sizes.find? fun n => p.fits (s.take n)).getD 0) :: rest

/-- What is left of texts when an end that a pattern fits is taken away, and what follows that. The
longest end is one of the first text. -/
def Pattern.dropEnd? (p : Pattern) (longest : Bool) : List (List Char) → Option (List (List Char))
  | [] => none
  | s :: rest =>
    let sizes := List.range (s.length + 1)
    let sizes := if longest then sizes else sizes.reverse
    let own := (sizes.find? fun n => p.fits (s.drop n)).map fun n => [s.take n]
    match longest, p.dropEnd? longest rest with
    | false, some rest => some (s :: rest)
    | _, _ => own

/-- The sign for any text fits every text. -/
theorem Pattern.fits_many (s : List Char) : Pattern.fits [.many] s = true := by
  simp only [Pattern.fits, List.any_eq_true, List.mem_range]
  exact ⟨s.length, Nat.lt_succ_self _, by simp⟩

end FlashImage.Shell
