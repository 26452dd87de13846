/-!
Regular expressions, and what they fit in a text.

An expression has all the ends that it can have from a place on. The one that is farthest behind
counts, and among those that are equal the one that takes most at each choice.
-/

set_option autoImplicit false
set_option relaxedAutoImplicit false

namespace FlashImage.Shell

/-- A set of characters, by ranges. -/
structure CharSet where
  negated : Bool
  ranges : List (Char × Char)
  deriving DecidableEq, Repr

/-- Whether a set has a character. Letters may count as the same in both cases. -/
def CharSet.has (s : CharSet) (foldsCase : Bool) (c : Char) : Bool :=
  let listed (c : Char) : Bool := s.ranges.any fun (a, b) => a ≤ c && c ≤ b
  let found := listed c || (foldsCase && (listed c.toLower || listed c.toUpper))
  found != s.negated

/-- A regular expression. -/
inductive Regex
  | empty
  | one (s : CharSet)
  | lineStart
  | lineEnd
  | wordStart
  | wordEnd
  /-- A place at the edge of a word, or one that is not. -/
  | edge (isEdge : Bool)
  /-- An expression whose text is kept under a number. -/
  | group (n : Nat) (r : Regex)
  /-- The text that a group has fitted. -/
  | again (n : Nat)
  | both (a b : Regex)
  | either (a b : Regex)
  | repeated (r : Regex) (least : Nat) (most : Option Nat)
  deriving Repr

/-- The text that is searched. -/
structure Subject where
  chars : Array Char
  foldsCase : Bool
  /-- Whether line breaks in the text start and end lines. -/
  hasLines : Bool

/-- A place in a text, and what the groups have fitted so far. -/
structure Spot where
  position : Nat
  groups : List (Nat × Nat × Nat)
  deriving DecidableEq, Repr

namespace Regex

def isWordChar (c : Char) : Bool := c.isAlphanum || c = '_'

def isWordAt (s : Subject) (i : Nat) : Bool := (s.chars[i]?).any isWordChar

def isWordBefore (s : Subject) (i : Nat) : Bool := i ≠ 0 && isWordAt s (i - 1)

def distinct (size : Nat) (spots : List Spot) : List Spot :=
  match spots with
  | [] => []
  | [p] => [p]
  | spots =>
    let step (acc : List Spot × Array Bool) (p : Spot) : List Spot × Array Bool :=
      if acc.2.getD p.position false then acc
      else (p :: acc.1, acc.2.setIfInBounds p.position true)
    (spots.foldl step ([], Array.replicate (size + 1) false)).1.reverse

/-- The spots that steps lead to, so many at least and at most, the farthest ones first. -/
def repeatSpots (size : Nat) (step : Spot → List Spot) (most : Option Nat) :
    (least limit : Nat) → (count : Nat) → (front found : List Spot) → (seen : Array Bool) →
    List Spot
  | least, 0, count, front, found, _ =>
    if least ≤ count then front.reverse ++ found else found
  | least, limit + 1, count, front, found, seen =>
    let fresh := if least ≤ count then front.filter fun p => !seen.getD p.position false else front
    let seen :=
      if least ≤ count then fresh.foldl (fun a p => a.setIfInBounds p.position true) seen else seen
    let found := if least ≤ count then fresh.reverse ++ found else found
    if fresh.isEmpty || most = some count then found
    else
      let next := distinct size (fresh.flatMap step)
      repeatSpots size step most least limit (count + 1) next found seen

/-- The spots at which an expression can end that starts at a spot. -/
def ends (s : Subject) : Regex → Spot → List Spot
  | .empty, p => [p]
  | .one set, p =>
    match s.chars[p.position]? with
    | some c => if set.has s.foldsCase c then [{ p with position := p.position + 1 }] else []
    | none => []
  | .lineStart, p =>
    let isStart := p.position = 0 || (s.hasLines && s.chars[p.position - 1]? = some '\n')
    if isStart then [p] else []
  | .lineEnd, p =>
    let isEnd := p.position = s.chars.size || (s.hasLines && s.chars[p.position]? = some '\n')
    if isEnd then [p] else []
  | .wordStart, p =>
    if isWordAt s p.position && !isWordBefore s p.position then [p] else []
  | .wordEnd, p =>
    if !isWordAt s p.position && isWordBefore s p.position then [p] else []
  | .edge isEdge, p =>
    if (isWordAt s p.position != isWordBefore s p.position) = isEdge then [p] else []
  | .group n r, p =>
    (r.ends s p).map fun q => { q with groups := (n, p.position, q.position) :: q.groups }
  | .again n, p =>
    match p.groups.lookup n with
    | none => []
    | some (a, b) =>
      let same (i : Nat) : Bool :=
        match s.chars[a + i]?, s.chars[p.position + i]? with
        | some x, some y => x = y || (s.foldsCase && x.toLower = y.toLower)
        | _, _ => false
      if (List.range (b - a)).all same then [{ p with position := p.position + (b - a) }] else []
  | .both a b, p => distinct s.chars.size ((a.ends s p).flatMap (b.ends s))
  | .either a b, p => distinct s.chars.size (a.ends s p ++ b.ends s p)
  | .repeated r least most, p =>
    let size := s.chars.size
    repeatSpots size (r.ends s) most least (size + least + 2) 0 [p] []
      (Array.replicate (size + 1) false)

/-- The farthest of some spots, the first of them if there are several. -/
def farthest? : List Spot → Option Spot
  | [] => none
  | p :: rest =>
    match farthest? rest with
    | none => some p
    | some q => if p.position < q.position then some q else some p

/-- What an expression fits first from a position on: where that starts, and where it ends. -/
def search? (r : Regex) (s : Subject) : (limit : Nat) → (position : Nat) → Option (Nat × Spot)
  | 0, _ => none
  | limit + 1, i =>
    if s.chars.size < i then none
    else
      match farthest? (r.ends s ⟨i, []⟩) with
      | some p => some (i, p)
      | none => search? r s limit (i + 1)

def find? (r : Regex) (s : Subject) (position : Nat) : Option (Nat × Spot) :=
  r.search? s (s.chars.size + 1) position

end Regex
end FlashImage.Shell
